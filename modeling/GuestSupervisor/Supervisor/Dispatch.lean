import GuestSupervisor.Monitor.Channel
import GuestSupervisor.Settings.Basic
import GuestSupervisor.Supervisor.Handle

/-!
# Commands to the live instance

A command is first checked against the published instance, then sent on a
connection of its own, and when it is answered the machine is told.

## Main Definitions

* `addressee`: the check.
* `attempt`: the check and the exchange with the monitor.
* `withRetry`: once more after a pause when nobody was reached.
* `acknowledgement?`: the event that an answered command means.

## Design Notes

A command that was refused or not connected has written nothing, and only then is
it tried again, so no command reaches a monitor twice.
-/

namespace GuestSupervisor.Supervisor

open Instance Monitor

/-- Finds the instance that a command goes to. A caller may name the instance that
is meant; the command to quit is reserved for stopping. -/
def addressee (options : SupervisorOptions) (current : Option Handle) (expected : Option Nat)
    (command : ControlCommand) : Except ChannelError Handle :=
  if command = .quit then .error (.invalidArgument "quit is issued by terminate")
  else
    let generation := current.map (·.generation)
    match expected.filter fun g => generation != some g with
    | some g => .error (.stale g generation)
    | none =>
      match current with
      | none => .error (.unreachable options.monitorSocket)
      | some h => if h.phase.acceptsCommands then .ok h else .error (.unreachable h.endpoint)

/-- One attempt to have a command carried out, with what was written to a monitor. -/
def attempt (options : SupervisorOptions) (current : Option Handle) (expected : Option Nat)
    (command : ControlCommand) (connection : Connection) : Exchange :=
  match addressee options current expected command with
  | .error e => ⟨.error e, []⟩
  | .ok h => send h.endpoint options.commandTimeout command connection

/-- The event that the answer to a command means for the instance. -/
def acknowledgement? : ControlCommand → Option Event
  | .pause => some .pauseAcknowledged
  | .resume => some .resumeAcknowledged
  | _ => none

/-- The pause before a second attempt, in milliseconds. -/
def retryPause : Nat := 250

/-- Whether an error says that nobody was reached. -/
def isUnreachable : ChannelError → Bool
  | .unreachable _ => true
  | _ => false

/-- Makes one attempt and, if nobody was reached, another one after a pause. The
attempts that were made are given in order. -/
def withRetry (attempt : σ → Exchange × σ) (pause : σ → σ) (state : σ) : List Exchange × σ :=
  let (first, state) := attempt state
  match first.outcome with
  | .ok _ => ([first], state)
  | .error e =>
    if isUnreachable e then
      let (second, state) := attempt (pause state)
      ([first, second], state)
    else ([first], state)

end GuestSupervisor.Supervisor
