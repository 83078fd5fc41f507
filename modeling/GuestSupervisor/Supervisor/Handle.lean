import GuestSupervisor.Command.Basic
import GuestSupervisor.Configuration.Json
import GuestSupervisor.Instance.Exit
import GuestSupervisor.Instance.Machine
import GuestSupervisor.Text.Duration
import GuestSupervisor.Text.Timestamp

/-!
# Instances as they are published

What everybody may know about an instance, and what can go wrong when one is
launched or stopped.

## Main Definitions

* `Handle`: the published state of one instance.
* `LaunchError`, `TerminateError`: why a launch or a stop failed.
-/

namespace GuestSupervisor.Supervisor

open Instance Text

/-- What is published about an instance. -/
structure Handle where
  /-- The number of the instance; every launch that starts a process takes the next
  one. -/
  generation : Nat
  /-- The number of its process. -/
  pid : UInt32
  startedAt : Timestamp
  phase : Phase
  /-- How it ended, once that is known. -/
  exit : Option ExitInfo
  /-- How many restarts in a row led to it. -/
  restarts : Nat
  /-- The configuration that its command was built from. -/
  configuration : Configuration
  command : EmulatorCommand
  deriving DecidableEq, Repr, Inhabited

namespace Handle

/-- The socket of its monitor. -/
def endpoint (h : Handle) : String := h.command.monitorSocket

/-- Whether the instance has not ended. -/
def isLive (h : Handle) : Bool := !h.phase.isTerminal

/-- An instance as the API shows it. -/
def toJson (h : Handle) : Json :=
  .object
    [ ("generation", .ofNat h.generation),
      ("pid", .ofNat h.pid.toNat),
      ("started_at", .string h.startedAt.standard),
      ("control_endpoint", .string h.endpoint),
      ("state", .string h.phase.word),
      ("exit", .ofOption h.exit ExitInfo.toJson),
      ("restarts", .ofNat h.restarts),
      ("launched_config", h.configuration.toJson) ]

end Handle

/-- Why a launch failed. -/
inductive LaunchError where
  /-- There is a live instance. -/
  | alreadyRunning (generation : Nat) (phase : Phase)
  /-- The monitor did not answer in time, and the process was killed. -/
  | endpointTimeout (limit : Milliseconds)
  | spawnFailed (program : String) (failure : IoFailure)
  /-- The process ended before its monitor answered. -/
  | exitedDuringStartup (exit : ExitInfo)
  deriving DecidableEq, Repr, Inhabited

/-- The text that is shown for an error. -/
def LaunchError.message : LaunchError → String
  | alreadyRunning generation phase =>
    "an emulator instance is already " ++ phase.word ++ " (generation " ++ toString generation ++ ")"
  | endpointTimeout limit =>
    "monitor endpoint not ready within " ++ limit.render ++ "; emulator killed"
  | spawnFailed program failure => "failed to spawn " ++ program ++ ": " ++ failure.message
  | exitedDuringStartup exit => "emulator exited during startup (" ++ exit.text ++ ")"

/-- Why an instance was not stopped, or not as it should be. -/
inductive TerminateError where
  | notRunning
  /-- The instance ignored the command to quit; it was killed and is gone. -/
  | escalatedToKill (generation : Nat)
  /-- The process is still there after it was killed. -/
  | killFailed (generation : Nat) (pid : Option UInt32)
  deriving DecidableEq, Repr, Inhabited

/-- A process number that may be missing, as messages show it. -/
def TerminateError.pidText : Option UInt32 → String
  | none => "None"
  | some pid => "Some(" ++ toString pid.toNat ++ ")"

/-- The text that is shown for an error. -/
def TerminateError.message : TerminateError → String
  | notRunning => "no emulator instance is running"
  | escalatedToKill generation =>
    "instance " ++ toString generation ++ " did not quit in time and was killed"
  | killFailed generation pid =>
    "instance " ++ toString generation ++ " (pid " ++ pidText pid ++ ") survived a forced kill"

/-- Whether a process number belongs to a process, given which positive numbers do.
The system knows no number of thirty-two bits whose first bit is set, and zero means
the caller's own group, which always exists. -/
def pidAlive (isTaken : UInt32 → Bool) (pid : UInt32) : Bool :=
  pid < 2147483648 && (pid == 0 || isTaken pid)

end GuestSupervisor.Supervisor
