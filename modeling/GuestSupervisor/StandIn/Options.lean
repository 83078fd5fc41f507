import GuestSupervisor.Command.OptionList
import GuestSupervisor.Text.Numeral

/-!
# The stand-in's command line

The stand-in takes the emulator's command line, looks only for the monitor's
socket and has three switches of its own to act out what emulators do.

## Main Definitions

* `StandIn.Options`: what the stand-in was told.
* `StandIn.Options.ofArguments?`: reading a command line.
-/

namespace GuestSupervisor.StandIn

open Text

/-- What the stand-in was told. -/
structure Options where
  /-- The path of the monitor's socket. -/
  monitor : String
  /-- Whether to go on after the command to quit. -/
  ignoreQuit : Bool
  /-- How long to wait before the monitor opens. -/
  startupDelay : UInt64
  /-- How long to run before ending with code 3. -/
  exitAfter : Option UInt64
  deriving DecidableEq, Repr

/-- What was read so far. -/
structure Seen where
  monitor : Option String := none
  ignoreQuit : Bool := false
  startupDelay : UInt64 := 0
  exitAfter : Option UInt64 := none
  deriving DecidableEq, Repr

/-- The socket path in the argument of `-monitor`. -/
def monitorPath? (argument : String) : Option String :=
  ("unix:".toList.isPrefixOf? argument.toList).map fun spec =>
    String.ofList (OptionList.firstField spec).1

/-- Takes in the arguments from left to right. Those it does not know are passed
over one by one. -/
def Seen.read (seen : Seen) : List String → Option Seen
  | [] => some seen
  | "-monitor" :: rest =>
    match rest with
    | [] => none
    | argument :: rest =>
      match monitorPath? argument with
      | none => none
      | some path => { seen with monitor := some path }.read rest
  | "--ignore-quit" :: rest => { seen with ignoreQuit := true }.read rest
  | "--startup-delay-ms" :: rest =>
    match rest with
    | [] => none
    | argument :: rest =>
      match readUInt64? argument.toList with
      | none => none
      | some n => { seen with startupDelay := n }.read rest
  | "--exit-after-ms" :: rest =>
    match rest with
    | [] => none
    | argument :: rest =>
      match readUInt64? argument.toList with
      | none => none
      | some n => { seen with exitAfter := some n }.read rest
  | _ :: rest => seen.read rest

/-- The options in a command line, which must name a monitor. -/
def Options.ofArguments? (arguments : List String) : Option Options := do
  let seen ← Seen.read {} arguments
  let monitor ← seen.monitor
  some ⟨monitor, seen.ignoreQuit, seen.startupDelay, seen.exitAfter⟩

end GuestSupervisor.StandIn
