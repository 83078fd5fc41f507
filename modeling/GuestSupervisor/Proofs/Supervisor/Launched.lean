import GuestSupervisor.Proofs.Supervisor.RestartLimit

/-!
# What is launched

A command and a configuration come into the system with the launch that a caller asks for.  From
then on they are copied: into the handle that is published, into what the restart task remembers
of a crash, and from there into the next launch.  So whatever is true of all that callers ask for
is true of every instance.

## Main Definitions

* `Move.Launches` — a move that asks for nothing but launches of one make.
* `System.Supplied` — a system in which everything is of one make.

## Main Statements

* `System.Supplied.run` — moves that ask for one make lead to instances of that make.
-/

namespace GuestSupervisor.Supervisor

variable {make : EmulatorCommand → Configuration → Prop}

/-- **A launch is of one make.** -/
def LaunchOrder.IsOf (make : EmulatorCommand → Configuration → Prop) (order : LaunchOrder) : Prop :=
  make order.command order.configuration

/-- **An instance is of one make.** -/
def Handle.IsOf (make : EmulatorCommand → Configuration → Prop) (h : Handle) : Prop :=
  make h.command h.configuration

/-- **A move that asks for nothing but launches of one make.** -/
def Move.Launches (make : EmulatorCommand → Configuration → Prop) (move : Move) : Prop :=
  ∀ order, move.demands (.launch order) → order.IsOf make

theorem Move.launches_of_not_asks {move : Move} (silent : ¬move.asks) : move.Launches make :=
  fun order demanded => absurd demanded (not_demands_launch silent order)

namespace System

variable {asked : Demand → Prop} {s s' : System}

/-- **Everything is of one make**: the latest instance, the launch in progress and the crash that
the restart task remembers. -/
structure Supplied (make : EmulatorCommand → Configuration → Prop) (s : System) : Prop where
  published : ∀ h, s.core.published = some h → h.IsOf make
  ordered : ∀ order stage, s.work = some (.launching order stage) → order.IsOf make
  remembered : ∀ task h, s.restarts = some task → task.stage.crashed? = some h → h.IsOf make

namespace Supplied

theorem start (make : EmulatorCommand → Configuration → Prop) (options : SupervisorOptions)
    (host : Host) (now : Nat) : (start options host now).Supplied make where
  published := by rintro h ⟨⟩
  ordered := by rintro order stage ⟨⟩
  remembered := by rintro task h ⟨⟩

theorem mono {others : EmulatorCommand → Configuration → Prop} (supplied : s.Supplied make)
    (wider : ∀ command c, make command c → others command c) : s.Supplied others where
  published := fun h published => wider _ _ (supplied.published h published)
  ordered := fun order stage current => wider _ _ (supplied.ordered order stage current)
  remembered := fun task h current crashed => wider _ _ (supplied.remembered task h current crashed)

/-- An event leaves what an instance was launched with. -/
theorem published_of_quiet (supplied : s.Supplied make) (sound : s.Sound)
    (quiet : Quiet asked s s') {h : Handle} (published : s'.core.published = some h) :
    h.IsOf make := by
  rcases sound.published_quiet quiet with same | ⟨before, event, exit, shown, changed⟩
  · exact supplied.published h (same ▸ published)
  · obtain rfl := Option.some.inj (published.symm.trans changed)
    exact supplied.published before shown

/-- A launch is one that was in progress, one that is asked for, or one after a crash that is
remembered. -/
theorem ordered_of_quiet (supplied : s.Supplied make) (quiet : Quiet asked s s')
    (demands : ∀ order, asked (.launch order) → order.IsOf make) {order : LaunchOrder}
    {stage : LaunchStage} (current' : s'.work = some (.launching order stage)) :
    order.IsOf make := by
  cases quiet with
  | outside s' core children work => exact supplied.ordered order stage (work ▸ current')
  | dispatched | child | event | attached | switched | enabled | disabled | observed | woken =>
    exact supplied.ordered order stage current'
  | launchBegun order idle caller demand =>
    cases current'
    exact demands _ demand
  | terminateBegun | terminateEnded => cases current'
  | launchEnded order' stage' result =>
    rw [work_endLaunch] at current'
    cases current'
  | entered work next current follows fits =>
    cases current'
    cases follows with
    | launching order same => exact supplied.ordered order _ current
  | relaunched task crashed current queued idle =>
    cases current'
    exact supplied.remembered task crashed current (by rw [queued]; rfl)

/-- A crash that is remembered was remembered before, or is the one that is published. -/
theorem remembered_of_quiet (supplied : s.Supplied make) (quiet : Quiet asked s s')
    {task' : RestartTask} {h : Handle} (current' : s'.restarts = some task')
    (crashed' : task'.stage.crashed? = some h) : h.IsOf make := by
  cases taskChange_of_quiet quiet with
  | kept absent tasks =>
    obtain ⟨task, before, -, -, remembered⟩ := tasks task' current'
    exact supplied.remembered task h before (remembered h crashed')
  | begun task absent current demand unhandled idle =>
    obtain rfl := Option.some.inj (current.symm.trans current')
    rw [idle] at crashed'
    cases crashed'
  | ended demand absent =>
    rw [absent] at current'
    cases current'
  | noticed task task'' h' current after limit published unhandled handled crashed =>
    obtain rfl := Option.some.inj (after.symm.trans current')
    obtain ⟨rfl, -⟩ := crashed h crashed'
    exact supplied.published h published

/-- **A change that starts no process keeps everything of one make**, if what is asked for is. -/
theorem quiet (supplied : s.Supplied make) (sound : s.Sound) (quiet : Quiet asked s s')
    (demands : ∀ order, asked (.launch order) → order.IsOf make) : s'.Supplied make where
  published := fun _ => supplied.published_of_quiet sound quiet
  ordered := fun _ _ => supplied.ordered_of_quiet quiet demands
  remembered := fun _ _ => supplied.remembered_of_quiet quiet

/-- A new process is of the make of its launch. -/
theorem started (supplied : s.Supplied make) (order : LaunchOrder) (pid : UInt32)
    (program : Program) (host : Host) (deadline : Nat)
    (current : s.work = some (.launching order .spawning)) :
    (s.started order pid program host deadline).Supplied make where
  published := by
    rintro h ⟨⟩
    exact supplied.ordered order _ current
  ordered := by
    rintro order stage ⟨⟩
    exact supplied.ordered order _ current
  remembered := supplied.remembered

/-- **Moves that ask for launches of one make lead to instances of that make.** -/
theorem run (supplied : s.Supplied make) (sound : s.Sound) {moves : List Move}
    (launches : ∀ move ∈ moves, move.Launches make) : (s.run moves).Supplied make :=
  sound.run_induction supplied moves
    (fun move member _ _ sound supplied change => supplied.quiet sound change (launches move member))
    fun order pid program host deadline _ supplied current =>
      supplied.started order pid program host deadline current

end Supplied

end System

end GuestSupervisor.Supervisor
