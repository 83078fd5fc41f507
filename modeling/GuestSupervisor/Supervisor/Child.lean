import GuestSupervisor.Host.Program
import GuestSupervisor.Instance.Exit

/-!
# Processes

Every process that was ever started, with what the operating system keeps about it:
a process that has ended is kept until somebody waits for it, and only then is its
number free.

## Main Definitions

* `Life`: alive, ended, or waited for.
* `Watcher`: where the task stands that waits for the end of a process.
* `Child`: one process.
-/

namespace GuestSupervisor.Supervisor

open Instance

/-- A process's life as the operating system sees it. -/
inductive Life where
  | alive
  /-- It has ended, and nobody has waited for it yet. -/
  | ended (exit : ExitInfo)
  /-- It has ended and is gone. -/
  | reaped (exit : ExitInfo)
  deriving DecidableEq, Repr, Inhabited

namespace Life

/-- Whether the process runs. -/
def isAlive : Life → Bool
  | alive => true
  | _ => false

/-- Whether the process has left no trace. -/
def isReaped : Life → Bool
  | reaped _ => true
  | _ => false

/-- The life after somebody has waited for the end. -/
def reap : Life → Life
  | ended exit => reaped exit
  | life => life

/-- The life after the process ends, if it still runs. -/
def finish (exit : ExitInfo) : Life → Life
  | alive => ended exit
  | life => life

end Life

/-- Where the task that watches a process stands. -/
inductive Watcher where
  /-- There is none yet. -/
  | absent
  /-- It waits for the end or for the order to kill. -/
  | waiting
  /-- It has killed the process and waits for the end. -/
  | killing
  /-- It has seen the end and has still to record it. -/
  | holding (exit : ExitInfo)
  | finished
  deriving DecidableEq, Repr, Inhabited

/-- On whose behalf a process was started. -/
inductive Origin where
  /-- A caller asked for it. -/
  | caller
  /-- The restart task did, after the crash of the instance with this number. -/
  | restart (crashed : Nat)
  deriving DecidableEq, Repr, Inhabited

/-- One process. -/
structure Child where
  generation : Nat
  pid : UInt32
  origin : Origin
  /-- What it runs. -/
  program : Program
  life : Life := .alive
  watcher : Watcher := .absent
  /-- Whether the watcher was told to kill it. -/
  ordered : Bool := false
  /-- Whether it was sent the signal that kills. -/
  signalled : Bool := false
  /-- Whether it listens on its monitor's socket. -/
  listening : Bool := false
  /-- Whether the guest in it was last told to stand still. -/
  paused : Bool := false
  deriving Inhabited

namespace Child

/-- The process after somebody has waited for it. -/
def reap (c : Child) : Child := { c with life := c.life.reap }

/-- The process after it ends. -/
def finish (c : Child) (exit : ExitInfo) : Child :=
  { c with life := c.life.finish exit, listening := c.listening && !c.life.isAlive }

end Child

end GuestSupervisor.Supervisor
