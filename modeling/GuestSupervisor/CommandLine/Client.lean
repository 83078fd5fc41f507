import GuestSupervisor.CommandLine.Invocation
import GuestSupervisor.CommandLine.Outcome
import GuestSupervisor.Json.Record
import GuestSupervisor.Text.Blank

/-!
# Asking the server

Errands are done by the server of a running supervisor. Each is one request, and the
user is told what the server answered.

## Main Definitions

* `Transport`: what carries a request to a server.
* `Errand.run`: doing an errand.
* `Reply.outcome`, `statusLines`: telling what the server answered.
-/

namespace GuestSupervisor.CommandLine

open Text

/-- What came back from a server. -/
structure Delivered where
  status : Nat
  body : String
  deriving DecidableEq, Repr, Inhabited

/-- Carries a request with a method to a URL; nothing comes back when no server is
reached. -/
abbrev Transport := String → String → Option Delivered

/-- A transport that reaches nobody. -/
def Transport.none : Transport := fun _ _ => Option.none

namespace Errand

/-- The path of the request. -/
def path : Errand → String
  | start => "/api/start"
  | stop => "/api/control/stop"
  | reset => "/api/control/reset"
  | pause => "/api/control/pause"
  | resume => "/api/control/resume"
  | restart => "/api/restart"
  | screenshot => "/api/screenshot"
  | status => "/api/status"

/-- The URL of the request to a server. Slashes at the end of the server's address are
left out. -/
def url (server : String) (errand : Errand) : String :=
  String.ofList (server.toList.reverse.dropWhile (· = '/')).reverse ++ errand.path

end Errand

/-! ### Replies -/

/-- What the server says about something that it was to do. -/
structure Reply where
  success : Bool := false
  output : Option String := none
  error : Option String := none
  deriving DecidableEq, Repr, Inhabited

namespace Reply

/-- The members of a reply. -/
def record : Record Reply where
  start := {}
  fields :=
    [ ⟨"success", fun v r => v.asBool.map fun success => { r with success }, true, true⟩,
      ⟨"output", fun v r => v.asOptionalString.map fun output => { r with output }, false, true⟩,
      ⟨"error", fun v r => v.asOptionalString.map fun error => { r with error }, false, true⟩ ]

/-- What the user is told. -/
def outcome (r : Reply) : Except CommandError Outcome :=
  if r.success then
    .ok (.printedLines (r.output.toList.map fun text => String.ofList (trimEnd text.toList)))
  else .error (.refused (r.error.getD "request failed"))

end Reply

/-! ### The status -/

/-- Whether a member is true. -/
def isTrue (value : Json) (name : String) : Bool :=
  match value.get name with
  | .bool b => b
  | _ => false

/-- What the status says about the instance. -/
def instanceLine (status : Json) : String :=
  let latest := status.get "instance"
  let number := (latest.get "generation").render
  let phase (usual : String) := ((latest.get "state").asString?).getD usual
  if isTrue status "running" then
    "Emulator is " ++ phase "running" ++ " (PID " ++ (status.get "pid").render ++ ", instance "
      ++ number ++ ")"
  else if latest.isNull then "Emulator is not running"
  else "Emulator is not running (instance " ++ number ++ " " ++ phase "stopped" ++ ")"

/-- What the status says about the stored configuration. -/
def configurationLine (status : Json) : String :=
  let c := status.get "config"
  let text (name : String) := (c.get name).render
  "RAM " ++ text "memory_mb" ++ " MB, boot " ++ ((c.get "boot_device").asString?).getD "?" ++ ", "
    ++ text "screen_width" ++ "x" ++ text "screen_height" ++ ", VNC :" ++ text "display_index"

/-- What the user is told about a status. -/
def statusLines (status : Json) : List String :=
  let changed :=
    if isTrue status "config_changed" then
      ["Saved configuration differs from the running instance; restart to apply"]
    else []
  let warnings := ((status.get "config_warnings").asArray?).getD []
  instanceLine status :: configurationLine status :: changed
    ++ (warnings.filterMap Json.asString?).map fun text => "warning: " ++ text

/-! ### Errands -/

/-- Does an errand. -/
def Errand.run (transport : Transport) (server : String) (errand : Errand) :
    Except CommandError Outcome :=
  let url := errand.url server
  match errand with
  | .status =>
    match transport "GET" url with
    | none => .error (.unreachable url)
    | some delivered =>
      if 400 ≤ delivered.status && delivered.status < 600 then
        .error (.status delivered.status url)
      else
        match Json.read? delivered.body.toList with
        | some report => .ok (.printedLines (statusLines report))
        | none => .error .undecodable
  | _ =>
    match transport "POST" url with
    | none => .error (.unreachable url)
    | some delivered =>
      match Reply.record.readText delivered.body.toList with
      | .ok reply => reply.outcome
      | .error _ => .error .unexpectedReply

end GuestSupervisor.CommandLine
