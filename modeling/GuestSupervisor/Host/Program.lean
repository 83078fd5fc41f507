import GuestSupervisor.Host.FileSystem

/-!
# Programs and the host

The programs that a host can run, and running one to its end. An installed tool is
known by its answers: what it writes, given the files, its arguments and its input.
The host keeps a record of the runs of its installed tools.

## Main Definitions

* `Program`: what a program does.
* `Host`: files, tools on the search path, programs at fixed places.
* `Host.find`: which program a name means.
* `Host.run`: a run to the end, with what it wrote and how it ended.

## Design Notes

A name with a slash is a path; any other is searched among the installed tools. A
file that is no program cannot be executed. What a tool does to the files is left
out.
-/

namespace GuestSupervisor

open Text

/-- What a program that ran to its end left behind. -/
structure Completed where
  /-- The code it ended with. -/
  code : Nat
  output : List UInt8
  errors : List UInt8
  deriving Repr, Inhabited

namespace Completed

/-- Whether a program ended with code zero. -/
def success (completed : Completed) : Bool := completed.code == 0

/-- How a message names the end of a program. -/
def statusText (completed : Completed) : String := "exit status: " ++ toString completed.code

end Completed

/-- What a program does. -/
inductive Program where
  /-- Answers whatever it answers to the files, its arguments and its input. -/
  | tool (answer : View → List String → List UInt8 → Completed)
  /-- Copies its input to its output. Its only argument may be a dash, which means the
  input. -/
  | copy
  /-- Ends at once with a code. -/
  | ends (code : Nat)
  /-- Plays the emulator: it opens a monitor and waits. -/
  | standIn
  deriving Inhabited

namespace Program

/-- Whether a program plays the emulator. -/
def isStandIn : Program → Bool
  | standIn => true
  | _ => false

/-- An exit code as the operating system keeps it: eight bits. -/
def keptCode (code : Nat) : Nat := code % 256

/-- What the stand-in says when its arguments name no monitor. -/
def standInComplaint : String :=
  "macemu-stub: missing -monitor unix:<path>,server,nowait\n"

/-- A tool that copies its input if `echoes`, then writes fixed output and ends with a
code. -/
def printing (output errors : List UInt8) (code : Nat) (echoes : Bool) : Program :=
  .tool fun _ _ input => ⟨code, (if echoes then input else []) ++ output, errors⟩

/-- What a program leaves behind when it is run to its end on an input, with the files
as they are. The stand-in emulator ends at once when its arguments name no
monitor. -/
def completed (program : Program) (files : View) (arguments : List String)
    (input : List UInt8) : Completed :=
  match program with
  | .tool answer =>
    let answered := answer files arguments input
    { answered with code := keptCode answered.code }
  | .copy => if arguments.all (· == "-") then ⟨0, input, []⟩ else ⟨1, [], []⟩
  | .ends code => ⟨keptCode code, [], []⟩
  | .standIn => ⟨2, [], Utf8.ofString standInComplaint⟩

end Program

/-- The machine that everything runs on. -/
structure Host where
  files : FileSystem
  /-- The tools on the search path, by name. -/
  tools : List (String × Program)
  /-- The programs at fixed places. -/
  programs : List (Location × Program)
  /-- The command lines of all tool runs so far, latest first. -/
  toolRuns : List (List String)
  deriving Inhabited

namespace Host

/-- The command lines of all tool runs so far, in order. -/
def calls (host : Host) : List (List String) := host.toolRuns.reverse

/-- The program that a name means, and whether it is an installed tool. -/
def find (host : Host) (name : String) : Except IoFailure (Program × Bool) :=
  if name.toList.contains '\x00' then .error .zeroInArgument
  else if name.toList.contains '/' then
    match host.files.resolve name true with
    | .error failure => .error failure
    | .ok (_, none) => .error (.os .noEntry)
    | .ok (place, some _) =>
      match host.programs.find? (·.1 == place) with
      | some (_, program) => .ok (program, false)
      | none => .error (.os .permissionDenied)
  else if name = "." || name = ".." then .error (.os .permissionDenied)
  else match host.tools.find? (·.1 == name) with
    | some (_, program) => .ok (program, true)
    | none => .error (.os .noEntry)

/-- Starts a program: finds it and, for an installed tool, records the command
line. -/
def start (host : Host) (name : String) (arguments : List String) :
    Except IoFailure Program × Host :=
  match host.find name with
  | .error failure => (.error failure, host)
  | .ok (program, isTool) =>
    if arguments.any (·.toList.contains '\x00') then (.error .zeroInArgument, host)
    else if isTool then
      (.ok program, { host with toolRuns := (name :: arguments) :: host.toolRuns })
    else (.ok program, host)

/-- Runs a program to its end on an input. -/
def run (host : Host) (name : String) (arguments : List String) (input : List UInt8) :
    Except IoFailure Completed × Host :=
  match host.start name arguments with
  | (.error failure, host) => (.error failure, host)
  | (.ok program, host) => (.ok (program.completed host.files.view arguments input), host)

end Host

end GuestSupervisor
