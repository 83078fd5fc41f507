import GuestSupervisor.Proofs.Supervisor.Core
import GuestSupervisor.Supervisor.System
import Mathlib.Data.List.Find
import Mathlib.Logic.Relation

/-!
# What can happen to a system

Every move is a short sequence of *changes*, and there are few kinds of them: a
process goes on, an event reaches the machine, the operation in progress enters a
stage or ends, a process is started, the restart task goes on.  Each change carries
what the supervisor has made sure of before it, so an invariant is shown once for
each kind of change and never again for the moves.

## Main Definitions

* `Child.Advances` — what may become of a process.
* `System.Fits` — what has been made sure of when a stage is entered.
* `Warrant` — why an event may be fed to the machine.
* `Demand` — what nothing but a caller brings about.
* `Quiet` — one change that starts no process, given what callers ask for.
* `Change` — one change of any kind.

## Design Notes

Starting a process is kept apart from all other changes because it is the one that
takes a generation; everything that counts generations needs to look at nothing
else.
-/

namespace GuestSupervisor.Supervisor

open Instance Monitor

/-! ## Processes -/

/-- Whether a watcher has waited for the end of its process. -/
def Watcher.hasSeen : Watcher → Bool
  | .holding _ | .finished => true
  | _ => false

/-- Whether a launch has started its process. -/
def LaunchStage.hasProcess : LaunchStage → Bool
  | .checking | .spawning => false
  | _ => true

/-- **A process advances.**  It keeps its number and its origin, nothing brings it
back, and its watcher has seen its end only when it is gone. -/
structure Child.Advances (c c' : Child) : Prop where
  generation : c'.generation = c.generation
  origin : c'.origin = c.origin
  reaped : c.life.isReaped → c'.life.isReaped
  seen : (c.watcher.hasSeen → c.life.isReaped) → c'.watcher.hasSeen → c'.life.isReaped

namespace Child

/-- What leaves life and watcher of a process alone lets it advance. -/
theorem Advances.of_eq {c c' : Child} (generation : c'.generation = c.generation)
    (origin : c'.origin = c.origin) (life : c'.life = c.life) (watcher : c'.watcher = c.watcher) :
    c.Advances c' where
  generation := generation
  origin := origin
  reaped := by rw [life]; exact id
  seen := by rw [life, watcher]; exact id

theorem isReaped_finish (exit : ExitInfo) (life : Life) :
    (life.finish exit).isReaped = life.isReaped := by
  cases life <;> rfl

theorem isReaped_reap_of_isReaped {life : Life} (reaped : life.isReaped) :
    life.reap.isReaped := by
  cases life <;> simp_all [Life.reap, Life.isReaped]

theorem advances_finish (c : Child) (exit : ExitInfo) : c.Advances (c.finish exit) where
  generation := rfl
  origin := rfl
  reaped := by simp [finish, isReaped_finish]
  seen := by simp [finish, isReaped_finish]

theorem advances_reap (c : Child) : c.Advances c.reap where
  generation := rfl
  origin := rfl
  reaped := isReaped_reap_of_isReaped
  seen := fun before seen => isReaped_reap_of_isReaped (before seen)

end Child

namespace System

variable {s s' : System} {generation : Nat}

/-- What a changed process is when it is looked up. -/
theorem child?_updateChild (change : Child → Child) (keeps : ∀ c ∈ s.children,
      c.generation = generation → (change c).generation = c.generation) (other : Nat) :
    (s.updateChild generation change).child? other
      = (s.child? other).map fun c => if c.generation = generation then change c else c := by
  unfold child? updateChild
  simp only [List.find?_map]
  congr 1
  refine List.find?_congr fun c member => ?_
  by_cases same : c.generation = generation
  · simp [same, keeps c member same]
  · simp [same]

/-! ## Stages -/

/-- The latest instance has not become ready: it is starting, or has crashed in the
meantime. -/
def IsStartingUp (s : System) : Prop :=
  ∃ h, s.core.published = some h ∧ (h.phase = .starting ∨ h.phase = .crashed)

/-- **What has been made sure of at a stage.**  A process is started only when the
one before is gone, and the end of a launch is recorded only when its process is. -/
def Fits (s : System) : Work → Prop
  | .launching _ stage =>
    match stage with
    | .checking => True
    | .spawning => s.isGone s.core.launched
    | .polling _ | .probing _ | .judging _ | .resting _ _ | .culling | .marking => s.IsStartingUp
    | .burying _ | .aborting _ => s.IsStartingUp ∧ s.isGone s.core.launched
    | .watching | .attaching | .returning => True
  | .terminating _ _ => True

end System

/-! ## Changes -/

/-- Why an event may be fed to the machine of an instance.  An end needs that the
process is gone, and a launch is given up only before the instance was ready. -/
inductive Warrant (s : System) (generation : Nat) : Event → Option ExitInfo → Prop
  | asked : Warrant s generation .stopRequested none
  | answered (command : ControlCommand) (event : Event)
      (means : acknowledgement? command = some event) : Warrant s generation event none
  | ready (order : LaunchOrder) (latest : generation = s.core.launched)
      (marked : s.work = some (.launching order .watching)) :
      Warrant s generation .endpointReady none
  | ended (success : Bool) (exit : Option ExitInfo) (gone : s.isGone generation) :
      Warrant s generation (.exited success) exit
  | aborted (exit : ExitInfo) (latest : generation = s.core.launched)
      (startingUp : s.IsStartingUp) (gone : s.isGone generation) :
      Warrant s generation .launchAborted (some exit)

/-- One stage of an operation may follow another: the operation stays what it is, and
only starting the process gives it one. -/
inductive Work.Follows : Work → Work → Prop
  | launching (order : LaunchOrder) {stage next : LaunchStage}
      (same : stage.hasProcess = next.hasProcess) :
      Follows (.launching order stage) (.launching order next)
  | terminating (graceful : Bool) (stage next : TerminateStage) :
      Follows (.terminating graceful stage) (.terminating graceful next)

/-- Whether what a launch was answered tells of a process that was started. -/
def startedOne : Except LaunchError Handle → Bool
  | .error (.alreadyRunning _ _) | .error (.spawnFailed _ _) => false
  | _ => true

/-- The system in which a launch has just started its process. -/
def System.started (s : System) (order : LaunchOrder) (pid : UInt32) (program : Program)
    (host : Host) (deadline : Nat) : System :=
  { s with
    host
    core := s.core.install pid ⟨s.now⟩ order.restarts order.configuration order.command
    children := { generation := s.core.launched + 1, pid, origin := order.origin, program }
      :: s.children
    work := some (.launching order (.polling deadline)) }

/-- What nothing but a caller brings about. -/
inductive Demand where
  | launch (order : LaunchOrder)
  /-- The restart task begins, with so many restarts in a row at most. -/
  | enable (maxRestarts : UInt32)
  | disable

/-- **One change that starts no process.**  A launch for a caller begins only where
somebody has asked for it, and so does or ends the restart task. -/
inductive Quiet (asked : Demand → Prop) (s : System) : System → Prop
  /-- Clock, files and the commands on their way may do anything. -/
  | outside (s' : System) (core : s'.core = s.core) (children : s'.children = s.children)
      (work : s'.work = s.work) (restarts : s'.restarts = s.restarts)
      (answers : s'.answers = s.answers) : Quiet asked s s'
  | dispatched (id : Nat) (result : Except ChannelError String) :
      Quiet asked s (s.endDispatch id result)
  | child (generation : Nat) (change : Child → Child)
      (advances : ∀ c ∈ s.children, c.generation = generation → c.Advances (change c)) :
      Quiet asked s (s.updateChild generation change)
  | event (generation : Nat) (event : Event) (exit : Option ExitInfo)
      (warrant : Warrant s generation event exit) :
      Quiet asked s (s.transition generation event exit)
  | attached (generation : Nat) : Quiet asked s { s with core := s.core.attach generation }
  | switched (generation : Nat) : Quiet asked s { s with core := s.core.useKillSwitch generation }
  | launchBegun (order : LaunchOrder) (idle : s.work = none) (caller : order.origin = .caller)
      (demand : asked (.launch order)) : Quiet asked s (s.enter (.launching order .checking))
  | terminateBegun (graceful : Bool) (idle : s.work = none) :
      Quiet asked s (s.enter (.terminating graceful .checking))
  | entered (work next : Work) (current : s.work = some work) (follows : work.Follows next)
      (fits : s.Fits next) : Quiet asked s (s.enter next)
  | launchEnded (order : LaunchOrder) (stage : LaunchStage) (result : Except LaunchError Handle)
      (current : s.work = some (.launching order stage))
      (accounts : startedOne result = stage.hasProcess) : Quiet asked s (s.endLaunch order result)
  | terminateEnded (graceful : Bool) (stage : TerminateStage)
      (result : Except TerminateError Handle)
      (current : s.work = some (.terminating graceful stage)) :
      Quiet asked s (s.answer (.terminated graceful result))
  | enabled (maxRestarts : UInt32) (backoff : Nat) (absent : s.restarts = none)
      (quiet : s.isRelaunching = false) (demand : asked (.enable maxRestarts)) :
      Quiet asked s
        { s with restarts := some ⟨maxRestarts, backoff, s.core.revision, none, .idle⟩ }
  | disabled (demand : asked .disable) : Quiet asked s { s with restarts := none }
  | observed (task : RestartTask) (current : s.restarts = some task) (idle : task.stage = .idle) :
      Quiet asked s { s with restarts := some (s.observe task) }
  | woken (task : RestartTask) (crashed : Handle) (wake : Nat)
      (current : s.restarts = some task) (asleep : task.stage = .sleeping crashed wake)
      (due : wake ≤ s.now) :
      Quiet asked s { s with restarts := some { task with stage := .queued crashed } }
  | relaunched (task : RestartTask) (crashed : Handle) (current : s.restarts = some task)
      (queued : task.stage = .queued crashed) (idle : s.work = none) :
      Quiet asked s
        { s with
          restarts := some { task with stage := .relaunching }
          work := some (.launching (System.restartOrder crashed) .checking) }

/-- **One change.** -/
inductive Change (s : System) : System → Prop
  | quiet {asked : Demand → Prop} {s' : System} (quiet : Quiet asked s s') : Change s s'
  | started (order : LaunchOrder) (pid : UInt32) (program : Program) (host : Host)
      (deadline : Nat) (current : s.work = some (.launching order .spawning)) :
      Change s (s.started order pid program host deadline)

/-- Any number of changes that start no process. -/
abbrev Quiets (asked : Demand → Prop) : System → System → Prop :=
  Relation.ReflTransGen (Quiet asked)

/-- Any number of changes. -/
abbrev Changes : System → System → Prop := Relation.ReflTransGen Change

theorem changes_of_quiets {asked : Demand → Prop} {s s' : System} (quiets : Quiets asked s s') :
    Changes s s' := by
  induction quiets with
  | refl => exact .refl
  | tail _ last ih => exact ih.tail (.quiet last)

end GuestSupervisor.Supervisor
