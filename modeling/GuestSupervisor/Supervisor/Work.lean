import GuestSupervisor.Monitor.Command
import GuestSupervisor.Supervisor.Child
import GuestSupervisor.Supervisor.Handle

/-!
# Work in progress

Launching and stopping exclude one another. Whoever does either goes through stages,
and between any two of them other things may happen: processes end, watchers record
it, commands are sent, files change.

## Main Definitions

* `LaunchStage`, `TerminateStage`, `Work`: the one operation in progress.
* `RestartTask`: the task that launches again after a crash.
* `Dispatch`: a command on its way.
* `Answer`: what an operation tells its caller.
-/

namespace GuestSupervisor.Supervisor

open Instance

/-- What is to be launched, and why. -/
structure LaunchOrder where
  command : EmulatorCommand
  configuration : Configuration
  restarts : Nat
  origin : Origin
  deriving DecidableEq, Repr, Inhabited

/-- Where a launch stands. -/
inductive LaunchStage where
  /-- About to see whether there is a live instance. -/
  | checking
  /-- About to start the process. -/
  | spawning
  /-- About to see whether the process has ended. -/
  | polling (deadline : Nat)
  /-- About to connect to the monitor. -/
  | probing (deadline : Nat)
  /-- Not connected; about to look at the clock. -/
  | judging (deadline : Nat)
  /-- Asleep between two looks. -/
  | resting (deadline wake : Nat)
  /-- The process ended; about to record it. -/
  | burying (exit : ExitInfo)
  /-- Too late: the process is killed and waited for. -/
  | culling
  /-- The killed process is gone; about to record it. -/
  | aborting (exit : ExitInfo)
  /-- The monitor answers; about to record it. -/
  | marking
  /-- About to start the watcher. -/
  | watching
  /-- About to make the watcher known. -/
  | attaching
  /-- About to answer. -/
  | returning
  deriving DecidableEq, Repr, Inhabited

/-- Where a stop stands. -/
inductive TerminateStage where
  /-- About to see whether there is a live instance. -/
  | checking
  /-- About to record the request. -/
  | requesting (h : Handle)
  /-- Telling the emulator to quit. -/
  | quitting (h : Handle)
  /-- Waiting for the emulator to end by itself. -/
  | awaitingQuit (h : Handle) (deadline : Nat)
  /-- About to kill. -/
  | killing (h : Handle)
  /-- Waiting for the killed process to end. -/
  | awaitingKill (h : Handle) (deadline : Nat)
  deriving DecidableEq, Repr, Inhabited

/-- The operation in progress. -/
inductive Work where
  | launching (order : LaunchOrder) (stage : LaunchStage)
  | terminating (graceful : Bool) (stage : TerminateStage)
  deriving DecidableEq, Repr, Inhabited

/-- Where the restart task stands. -/
inductive RestartStage where
  /-- Waiting for something new to be published. -/
  | idle
  /-- Asleep before it launches again. -/
  | sleeping (crashed : Handle) (wake : Nat)
  /-- Waiting until no other operation is in progress. -/
  | queued (crashed : Handle)
  /-- Its launch is in progress. -/
  | relaunching
  deriving DecidableEq, Repr, Inhabited

/-- The task that launches again after a crash. -/
structure RestartTask where
  /-- How many restarts in a row there may be. -/
  maxRestarts : UInt32
  /-- The pause before a restart, in milliseconds. -/
  backoff : Nat
  /-- The last revision that it has seen. -/
  seen : Nat
  /-- The last instance whose crash it has handled. -/
  handled : Option Nat
  stage : RestartStage
  deriving DecidableEq, Repr, Inhabited

/-- How far a command has come after it was checked. -/
inductive DispatchStage where
  | checked
  /-- Connected to the process of the instance `peer`. -/
  | connected (peer : Nat)
  /-- The process has carried the command out. -/
  | executed (peer : Nat)
  /-- The reply has arrived. -/
  | replied (reply : String)
  deriving DecidableEq, Repr, Inhabited

/-- A command on its way. -/
structure Dispatch where
  id : Nat
  /-- The instance that the caller meant, if one was named. -/
  expected : Option Nat
  command : ControlCommand
  /-- The instance that the check has seen, and its monitor's socket. -/
  generation : Nat
  endpoint : String
  stage : DispatchStage
  deriving DecidableEq, Repr, Inhabited

/-- What an operation tells its caller. -/
inductive Answer where
  | launched (origin : Origin) (result : Except LaunchError Handle)
  | terminated (graceful : Bool) (result : Except TerminateError Handle)
  | dispatched (id : Nat) (result : Except ChannelError String)

end GuestSupervisor.Supervisor
