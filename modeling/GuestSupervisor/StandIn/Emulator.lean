import GuestSupervisor.Host.FileSystem
import GuestSupervisor.Monitor.Channel
import GuestSupervisor.Text.Blank

/-!
# The stand-in's monitor

What the stand-in answers on its monitor: it greets, and for each line it writes an
echo, an answer and the prompt.

## Main Definitions

* `Order`: what a line asks for.
* `respond`: the answer to a line, and what it changes.
* `Response.peer`: the same as the other end of a connection.
-/

namespace GuestSupervisor.StandIn

open Text Monitor

/-- What a line asks for. -/
inductive Order where
  | quit
  | stop
  | continue
  | reset
  | status
  | screendump (path : String)
  | device
  | unknown
  deriving DecidableEq, Repr

/-- A line cut into its first word and what follows one blank behind it. -/
def words (line : List Char) : List Char × List Char := (splitOnce ' ' line).getD (line, [])

/-- What a line without blanks around it asks for. -/
def Order.ofLine (line : List Char) : Order :=
  let (verb, argument) := words line
  match String.ofList verb with
  | "quit" => .quit
  | "stop" => .stop
  | "cont" => .continue
  | "system_reset" => .reset
  | "info" => if String.ofList argument = "status" then .status else .unknown
  | "screendump" => .screendump (String.ofList argument)
  | "device_add" => .device
  | "device_del" => .device
  | _ => .unknown

/-- The picture that the stand-in writes: four black points. -/
def picture : List UInt8 := Utf8.ofString "P6\n2 2\n255\n" ++ List.replicate 12 0

/-- What becomes of a line. -/
structure Response where
  /-- The line as it is echoed. -/
  line : List Char
  /-- What is written between the echo and the prompt. -/
  text : List Char
  /-- Whether the guest stands still afterwards. -/
  paused : Bool
  /-- Whether the stand-in ends right after the echo. -/
  quits : Bool
  files : FileSystem

/-- The end of a line on the monitor. -/
def lineEnd : List Char := ['\r', '\n']

/-- The answer to a line. -/
def respond (ignoreQuit paused : Bool) (files : FileSystem) (received : List Char) : Response :=
  let line := trim received
  let same : Response := ⟨line, [], paused, false, files⟩
  match Order.ofLine line with
  | .quit => { same with quits := !ignoreQuit }
  | .stop => { same with paused := true }
  | .continue => { same with paused := false }
  | .reset => same
  | .status =>
    { same with text := "VM status: ".toList ++ (if paused then "paused" else "running").toList
        ++ lineEnd }
  | .screendump path =>
    match files.writeFile path picture with
    | .ok files => { same with files }
    | .error failure =>
      { same with text := "Could not open '".toList ++ path.toList ++ "': ".toList
          ++ failure.message.toList ++ lineEnd }
  | .device => same
  | .unknown =>
    { same with text := "unknown command: '".toList ++ line ++ ('\'' :: lineEnd) }

/-- What the stand-in writes when a connection is opened. -/
def greeting : List Char :=
  "QEMU 8.2.0 monitor - type 'help' for more information".toList ++ lineEnd ++ prompt

/-- The other end of a connection on which one line is sent. -/
def Response.peer (r : Response) : Peer where
  greeting := ⟨cutPieces (Utf8.encode greeting), .silent⟩
  writing := .taken
  answer :=
    if r.quits then ⟨cutPieces (Utf8.encode (r.line ++ lineEnd)), .closed⟩
    else ⟨cutPieces (Utf8.encode (r.line ++ lineEnd ++ r.text ++ prompt)), .silent⟩

end GuestSupervisor.StandIn
