import GuestSupervisor.Proofs.Supervisor.Restart

/-!
# How often the restart task restarts

The limit of restarts in a row is carried by a number that is copied from handle to
handle, and the restart task itself keeps nothing but the last instance that it has
handled.  This module shows that this is enough: whatever callers launch and stop in
between, however often a restart fails, and whichever of the published handles the task
happens to see, the number never passes the limit and no crash is answered twice.

## Main Definitions

* `Move.Respects` — a move under a limit of restarts: instances are created by launches
  of callers and by the restart task alone.
* `System.restartsInARow` — how many processes were started for the restart task since
  the last one for a caller.
* `System.TaskChange` — what a change that starts no process makes of the restart task.
* `System.relaunches` — how often the task has asked for a launch after one crash.
* `System.attempts` — on whose behalf launches were asked for, whatever became of them.
* `System.Limited`, `System.Handles`, `System.RelaunchedOnce`, `System.Tried` — the invariants.

## Main Statements

* `System.restarts_limited` — the limit, and that no crash is answered twice.
-/

namespace GuestSupervisor.Supervisor

open Instance

/-! ## Moves under a limit -/

/-- **A move under a limit of restarts.**  Nobody but the restart task launches again what
an instance was launched with, and the task is given the one limit. -/
def Move.Respects (limit : UInt32) : Move → Prop
  | .relaunch _ => False
  | .enableRestarts maxRestarts _ => maxRestarts = limit
  | _ => True

/-- What callers may ask for under a limit of restarts. -/
def Demand.Respects (limit : UInt32) : Demand → Prop
  | .launch order => order.restarts = 0
  | .enable maxRestarts => maxRestarts = limit
  | .disable => True

theorem Move.Respects.demands {limit : UInt32} {move : Move} (respects : move.Respects limit)
    {demand : Demand} (demanded : move.demands demand) : demand.Respects limit := by
  cases demand with
  | launch order =>
    cases move with
    | launch command configuration =>
      rw [show order = ⟨command, configuration, 0, .caller⟩ from demanded]
      exact rfl
    | relaunch previous => exact respects.elim
    | _ => cases demanded
  | enable maxRestarts =>
    cases move with
    | enableRestarts given backoff => exact Eq.trans demanded respects
    | _ => cases demanded
  | disable => trivial

/-- Nothing ends the restart task where it is not asked for. -/
theorem Move.not_demands_disable {moves : List Move} (kept : .disableRestarts ∉ moves)
    {move : Move} (member : move ∈ moves) : ¬move.demands .disable := by
  cases move with
  | disableRestarts => exact absurd member kept
  | _ => exact id

@[simp] theorem Origin.restart_beq (a b : Nat) :
    (Origin.restart a == Origin.restart b) = (a == b) := by
  rw [Bool.eq_iff_iff]
  simp

/-- Whether an answer is to a launch that the restart task has asked for after a crash. -/
def Answer.isRestartOf (crashed : Nat) : Answer → Bool
  | .launched origin _ => origin == .restart crashed
  | _ => false

/-- How many launches after a crash are in progress, which is at most one. -/
def Work.restartsOf (crashed : Nat) : Option Work → Nat
  | some (.launching order _) => (order.origin == .restart crashed).toNat
  | _ => 0

theorem Work.Follows.restartsOf_eq {work next : Work} (follows : work.Follows next)
    (crashed : Nat) :
    Work.restartsOf crashed (some next) = Work.restartsOf crashed (some work) := by
  cases follows <;> rfl

/-- On whose behalf the launch in progress was asked for, if there is one. -/
def Work.asker? : Option Work → Option Origin
  | some (.launching order _) => some order.origin
  | _ => none

/-- On whose behalf a launch was asked for that has its answer. -/
def Answer.asker? : Answer → Option Origin
  | .launched origin _ => some origin
  | _ => none

theorem Work.Follows.asker?_eq {work next : Work} (follows : work.Follows next) :
    Work.asker? (some next) = Work.asker? (some work) := by
  cases follows <;> rfl

/-! ## Rows -/

/-- The length of the row at the front, in which nothing is for a caller. -/
def rowInFront (origins : List Origin) : Nat := (origins.takeWhile (· != .caller)).length

theorem rowInFront_cons (origin : Origin) (origins : List Origin) :
    rowInFront (origin :: origins)
      = if origin = .caller then 0 else rowInFront origins + 1 := by
  unfold rowInFront
  rw [List.takeWhile_cons]
  by_cases caller : origin = .caller <;> simp [caller]

/-- **No row is longer** than a bound, wherever it stands. -/
def RowsWithin (bound : Nat) (origins : List Origin) : Prop :=
  ∀ newer row older, origins = newer ++ row ++ older → .caller ∉ row → row.length ≤ bound

theorem rowsWithin_nil (bound : Nat) : RowsWithin bound [] := by
  intro newer row older split
  simp_all

/-- One more in front makes a new row there only. -/
theorem RowsWithin.cons {bound : Nat} {origin : Origin} {origins : List Origin}
    (within : RowsWithin bound origins) (front : rowInFront (origin :: origins) ≤ bound) :
    RowsWithin bound (origin :: origins) := by
  intro newer row older split nobody
  cases newer with
  | cons first newer => exact within newer row older (List.cons.inj split).2 nobody
  | nil =>
    have all : ∀ o ∈ row, (o != Origin.caller) = true := by
      intro o member
      rw [bne_iff_ne]
      rintro rfl
      exact nobody member
    refine le_trans ?_ front
    rw [rowInFront, split, List.nil_append, List.takeWhile_append_of_pos all, List.length_append]
    exact Nat.le_add_right _ _

namespace System

variable {asked : Demand → Prop} {s s' : System}

/-! ## The restart task -/

/-- **What a change that starts no process makes of the restart task.** -/
inductive TaskChange (asked : Demand → Prop) (s s' : System) : Prop
  /-- It has handled the same and remembers nothing new. -/
  | kept (absent : s'.restarts = none → s.restarts = none)
      (tasks : ∀ task', s'.restarts = some task' → ∃ task, s.restarts = some task ∧
        task'.maxRestarts = task.maxRestarts ∧ task'.handled = task.handled ∧
        ∀ h, task'.stage.crashed? = some h → task.stage.crashed? = some h)
  /-- It begins, and has handled and remembers nothing. -/
  | begun (task : RestartTask) (absent : s.restarts = none) (current : s'.restarts = some task)
      (demand : asked (.enable task.maxRestarts)) (unhandled : task.handled = none)
      (idle : task.stage.crashed? = none)
  | ended (demand : asked .disable) (absent : s'.restarts = none)
  /-- It handles the crash that is published, and remembers it if it may restart. -/
  | noticed (task task' : RestartTask) (h : Handle) (current : s.restarts = some task)
      (after : s'.restarts = some task') (limit : task'.maxRestarts = task.maxRestarts)
      (published : s.core.published = some h) (unhandled : task.handled ≠ some h.generation)
      (handled : task'.handled = some h.generation)
      (crashed : ∀ h', task'.stage.crashed? = some h' →
        h' = h ∧ h.restarts < task.maxRestarts.toNat)

theorem TaskChange.of_eq (same : s'.restarts = s.restarts) : TaskChange asked s s' := by
  refine .kept (fun none => same ▸ none) fun task current => ?_
  exact ⟨task, same ▸ current, rfl, rfl, fun _ crashed => crashed⟩

/-- The restart task in another stage, in which it remembers nothing new. -/
theorem TaskChange.of_stage {task : RestartTask} {stage : RestartStage}
    (current : s.restarts = some task)
    (after : s'.restarts = some { task with stage := stage })
    (crashed : ∀ h, stage.crashed? = some h → task.stage.crashed? = some h) :
    TaskChange asked s s' := by
  refine .kept (fun none => ?_) fun task' current' => ?_
  · rw [after] at none
    cases none
  · obtain rfl := Option.some.inj (after.symm.trans current')
    exact ⟨task, current, rfl, rfl, crashed⟩

theorem taskChange_of_quiet (quiet : Quiet asked s s') : TaskChange asked s s' := by
  cases quiet with
  | outside s' core children work restarts => exact .of_eq restarts
  | dispatched | child | event | attached | switched | launchBegun | terminateBegun | entered
  | terminateEnded => exact .of_eq rfl
  | launchEnded order stage result =>
    rcases s.restarts_endLaunch_cases order result with same | idle
    · exact .of_eq same
    · cases current : s.restarts with
      | none => exact .of_eq (by rw [idle, current]; rfl)
      | some task =>
        have after : (s.endLaunch order result).restarts = some { task with stage := .idle } := by
          rw [idle, current]
          rfl
        exact .of_stage current after (by rintro h ⟨⟩)
  | enabled maxRestarts backoff absent quiet demand =>
    exact .begun _ absent rfl demand rfl rfl
  | disabled demand => exact .ended demand rfl
  | observed task current idle =>
    rcases s.observe_cases task with same | ⟨h, published, -, unhandled, seen⟩
    · refine .kept (by rintro ⟨⟩) ?_
      rintro _ ⟨⟩
      rw [same]
      exact ⟨task, current, rfl, rfl, fun _ crashed => crashed⟩
    · rcases seen with same | ⟨below, same⟩
      · refine .noticed task _ h current rfl (by rw [same]) published unhandled (by rw [same]) ?_
        intro h' crashed
        simp [same, idle, RestartStage.crashed?] at crashed
      · refine .noticed task _ h current rfl (by rw [same]) published unhandled (by rw [same]) ?_
        intro h' crashed
        obtain rfl : h = h' := by simpa [same, RestartStage.crashed?] using crashed
        exact ⟨rfl, below⟩
  | woken task crashed wake current asleep due =>
    refine .of_stage current rfl ?_
    rintro h ⟨⟩
    rw [asleep]
    rfl
  | relaunched task crashed current queued idle =>
    refine .of_stage current rfl ?_
    rintro h ⟨⟩

/-! ## Restarts in a row -/

/-- On whose behalf the processes were started, latest first. -/
def origins (s : System) : List Origin := s.children.map Child.origin

/-- How many processes were started for the restart task since the last one that was
started for a caller. -/
def restartsInARow (s : System) : Nat := rowInFront s.origins

/-- A quiet change leaves what the processes were started for. -/
theorem origins_eq_of_quiet (quiet : Quiet asked s s') : s'.origins = s.origins := by
  unfold origins
  cases quiet with
  | outside s' core children => rw [children]
  | child generation change advances =>
    simp only [updateChild, List.map_map]
    refine List.map_congr_left fun c member => ?_
    by_cases same : c.generation = generation
    · simpa [same] using (advances c member same).origin
    · simp [same]
  | launchEnded => rw [children_endLaunch]
  | _ => rfl

theorem restartsInARow_of_quiet (quiet : Quiet asked s s') :
    s'.restartsInARow = s.restartsInARow := by
  unfold restartsInARow
  rw [origins_eq_of_quiet quiet]

theorem origins_started (order : LaunchOrder) (pid : UInt32) (program : Program) (host : Host)
    (deadline : Nat) :
    (s.started order pid program host deadline).origins = order.origin :: s.origins := rfl

/-- A process for the restart task makes the row longer, one for a caller ends it. -/
theorem restartsInARow_started (order : LaunchOrder) (pid : UInt32) (program : Program)
    (host : Host) (deadline : Nat) :
    (s.started order pid program host deadline).restartsInARow
      = if order.origin = .caller then 0 else s.restartsInARow + 1 := by
  rw [restartsInARow, origins_started, rowInFront_cons, restartsInARow]

/-- **The restarts are limited.**  The number that a handle carries is at least the length
of the row that its process ends, and at most the limit. -/
structure Limited (limit : UInt32) (s : System) : Prop where
  published : ∀ h, s.core.published = some h →
    s.restartsInARow ≤ h.restarts ∧ h.restarts ≤ limit.toNat
  task : ∀ task, s.restarts = some task → task.maxRestarts = limit
  /-- What the task remembers may still be restarted. -/
  pending : ∀ task h, s.restarts = some task → task.stage.crashed? = some h →
    s.restartsInARow ≤ h.restarts ∧ h.restarts < limit.toNat
  /-- The process that is about to be started will carry enough. -/
  ordered : ∀ order stage, s.work = some (.launching order stage) →
    order.restarts ≤ limit.toNat ∧
      (stage.hasProcess = false → order.origin ≠ .caller → s.restartsInARow < order.restarts)
  rows : RowsWithin limit.toNat s.origins

namespace Limited

variable {limit : UInt32}

theorem start (limit : UInt32) (options : SupervisorOptions) (host : Host) (now : Nat) :
    (start options host now).Limited limit where
  published := by rintro h ⟨⟩
  task := by rintro task ⟨⟩
  pending := by rintro task h ⟨⟩
  ordered := by rintro order stage ⟨⟩
  rows := rowsWithin_nil _

/-- What is published of an instance keeps its number of restarts. -/
theorem published_of_quiet (limited : s.Limited limit) (sound : s.Sound)
    (quiet : Quiet asked s s') {h : Handle} (published : s'.core.published = some h) :
    s.restartsInARow ≤ h.restarts ∧ h.restarts ≤ limit.toNat := by
  rcases sound.published_quiet quiet with same | ⟨before, event, exit, shown, changed⟩
  · exact limited.published h (same ▸ published)
  · obtain rfl := Option.some.inj (published.symm.trans changed)
    exact limited.published before shown

/-- The process that is about to be started carries enough, and a launch that begins does
not go against the limit. -/
theorem ordered_of_quiet (limited : s.Limited limit) (quiet : Quiet asked s s')
    (respects : ∀ demand, asked demand → demand.Respects limit) {order : LaunchOrder}
    {stage : LaunchStage} (current' : s'.work = some (.launching order stage)) :
    order.restarts ≤ limit.toNat ∧
      (stage.hasProcess = false → order.origin ≠ .caller → s.restartsInARow < order.restarts) := by
  cases quiet with
  | outside s' core children work => exact limited.ordered order stage (work ▸ current')
  | dispatched | child | event | attached | switched | enabled | disabled | observed | woken =>
    exact limited.ordered order stage current'
  | launchBegun order idle caller demand =>
    cases current'
    have none : order.restarts = 0 := respects _ demand
    exact ⟨by omega, fun _ other => absurd caller other⟩
  | terminateBegun | terminateEnded => cases current'
  | launchEnded order' stage' result =>
    rw [work_endLaunch] at current'
    cases current'
  | entered work next current follows fits =>
    cases current'
    cases follows with
    | launching order same =>
      have before := limited.ordered order _ current
      exact ⟨before.1, fun early => before.2 (same.trans early)⟩
  | relaunched task crashed current queued idle =>
    -- The launch carries one restart more than the handle that is remembered.
    have remembered := limited.pending task crashed current (by rw [queued]; rfl)
    cases current'
    simp only [restartOrder]
    exact ⟨by omega, fun _ _ => by omega⟩

/-- A change that starts no process keeps the restarts limited, when callers ask for
nothing that goes against the limit. -/
theorem quiet (limited : s.Limited limit) (sound : s.Sound) (quiet : Quiet asked s s')
    (respects : ∀ demand, asked demand → demand.Respects limit) : s'.Limited limit := by
  have row := restartsInARow_of_quiet quiet
  suffices tasks : (∀ task, s'.restarts = some task → task.maxRestarts = limit) ∧
      ∀ task h, s'.restarts = some task → task.stage.crashed? = some h →
        s.restartsInARow ≤ h.restarts ∧ h.restarts < limit.toNat by
    refine ⟨fun h published => ?_, tasks.1, by rw [row]; exact tasks.2, fun order stage work => ?_,
      by rw [origins_eq_of_quiet quiet]; exact limited.rows⟩
    · rw [row]
      exact limited.published_of_quiet sound quiet published
    · rw [row]
      exact limited.ordered_of_quiet quiet respects work
  cases taskChange_of_quiet quiet with
  | kept absent tasks =>
    constructor
    · intro task' current
      obtain ⟨task, before, same, -⟩ := tasks task' current
      exact same.trans (limited.task task before)
    · intro task' h current crashed
      obtain ⟨task, before, -, -, remembered⟩ := tasks task' current
      exact limited.pending task h before (remembered h crashed)
  | begun task absent current demand unhandled idle =>
    constructor
    · intro task' current'
      obtain rfl := Option.some.inj (current.symm.trans current')
      exact respects _ demand
    · intro task' h current' crashed
      obtain rfl := Option.some.inj (current.symm.trans current')
      rw [idle] at crashed
      cases crashed
  | ended demand absent => simp [absent]
  | noticed task task' h current after sameLimit published unhandled handled crashed =>
    have before := limited.task task current
    constructor
    · intro task'' current'
      obtain rfl := Option.some.inj (after.symm.trans current')
      exact sameLimit.trans before
    · intro task'' h' current' remembered
      obtain rfl := Option.some.inj (after.symm.trans current')
      obtain ⟨rfl, below⟩ := crashed h' remembered
      exact ⟨(limited.published h' published).1, by rwa [before] at below⟩

/-- A new process keeps the restarts limited. -/
theorem started (limited : s.Limited limit) (remembers : s.Remembers) (order : LaunchOrder)
    (pid : UInt32) (program : Program) (host : Host) (deadline : Nat)
    (current : s.work = some (.launching order .spawning)) :
    (s.started order pid program host deadline).Limited limit := by
  obtain ⟨atMost, enough⟩ := limited.ordered order _ current
  have row := s.restartsInARow_started order pid program host deadline
  have carries : (s.started order pid program host deadline).restartsInARow ≤ order.restarts := by
    rw [row]
    by_cases caller : order.origin = .caller
    · simp [caller]
    · rw [if_neg caller]
      exact enough rfl caller
  refine ⟨?_, limited.task, ?_, ?_, ?_⟩
  · rintro h ⟨⟩
    exact ⟨carries, atMost⟩
  · intro task h restarts crashed
    have before := limited.pending task h restarts crashed
    rw [row, if_pos (remembers.caller_of_crashed current restarts crashed)]
    exact ⟨Nat.zero_le _, before.2⟩
  · rintro _ _ ⟨⟩
    exact ⟨atMost, by rintro ⟨⟩⟩
  · rw [origins_started]
    exact limited.rows.cons (carries.trans atMost)

/-- **The restarts stay limited** through every run of moves under the limit. -/
theorem run (limited : s.Limited limit) (reachable : s.Reachable) (moves : List Move)
    (respects : ∀ move ∈ moves, move.Respects limit) : (s.run moves).Limited limit := by
  have both : (s.run moves).Remembers ∧ (s.run moves).Limited limit := by
    refine reachable.sound.run_induction (motive := fun a => a.Remembers ∧ a.Limited limit)
      ⟨reachable.remembers, limited⟩ moves ?_ ?_
    · intro move member a b sound held quiet
      exact ⟨held.1.quiet sound quiet,
        held.2.quiet sound quiet fun _ demanded => (respects move member).demands demanded⟩
    · intro a order pid program host deadline sound held current
      exact ⟨held.1.change sound (.started order pid program host deadline current),
        held.2.started held.1 order pid program host deadline current⟩
  exact both.2

end Limited

/-! ## One restart for one crash -/

/-- How often the restart task has asked for a launch after the crash of an instance. -/
def relaunches (s : System) (crashed : Nat) : Nat :=
  s.answers.countP (Answer.isRestartOf crashed) + Work.restartsOf crashed s.work

/-- A change that starts no process leaves what the task has asked for, unless it asks for a
launch after the crash that it remembers. -/
theorem relaunches_of_quiet (quiet : Quiet asked s s') :
    s'.relaunches = s.relaunches ∨
      ∃ task crashed, s.restarts = some task ∧ task.stage.crashed? = some crashed ∧
        s'.restarts = some { task with stage := .relaunching } ∧
        ∀ g, s'.relaunches g = s.relaunches g + (crashed.generation == g).toNat := by
  cases quiet with
  | outside s' core children work restarts answers =>
    refine Or.inl (funext fun crashed => ?_)
    simp only [relaunches, work, answers]
  | child | event | attached | switched | enabled | disabled | observed | woken => exact Or.inl rfl
  | dispatched =>
    refine Or.inl (funext fun crashed => ?_)
    simp [relaunches, endDispatch, Answer.isRestartOf]
  | launchBegun order idle caller demand =>
    refine Or.inl (funext fun crashed => ?_)
    simp [relaunches, enter, idle, Work.restartsOf, caller]
  | terminateBegun graceful idle =>
    refine Or.inl (funext fun crashed => ?_)
    simp [relaunches, enter, idle, Work.restartsOf]
  | entered work next current follows fits =>
    refine Or.inl (funext fun crashed => ?_)
    simp only [relaunches, enter, current, follows.restartsOf_eq]
  | launchEnded order stage result current accounts =>
    -- What was in progress is answered now.
    refine Or.inl (funext fun crashed => ?_)
    by_cases restart : order.origin = .restart crashed <;>
      simp [relaunches, current, Work.restartsOf, Answer.isRestartOf, restart]
  | terminateEnded graceful stage result current =>
    refine Or.inl (funext fun crashed => ?_)
    simp [relaunches, answer, current, Work.restartsOf, Answer.isRestartOf]
  | relaunched task crashed current queued idle =>
    refine Or.inr ⟨task, crashed, current, by rw [queued]; rfl, rfl, fun g => ?_⟩
    simp only [relaunches, idle, Work.restartsOf, restartOrder, Origin.restart_beq]
    omega

/-- **The restart task handles instances in their order.**  The last one that it has
handled is the one that it remembers, and was launched. -/
structure Handles (s : System) : Prop where
  launched : ∀ task last, s.restarts = some task → task.handled = some last →
    last ≤ s.core.launched
  pending : ∀ task h, s.restarts = some task → task.stage.crashed? = some h →
    task.handled = some h.generation

theorem handles_start (options : SupervisorOptions) (host : Host) (now : Nat) :
    (start options host now).Handles where
  launched := by rintro task last ⟨⟩
  pending := by rintro task h ⟨⟩

namespace Handles

/-- A change that starts no process keeps the order. -/
theorem quiet (handles : s.Handles) (sound : s.Sound) (quiet : Quiet asked s s') :
    s'.Handles := by
  have launched := launched_quiet quiet
  cases taskChange_of_quiet quiet with
  | kept absent tasks =>
    constructor
    · intro task' last current handled
      obtain ⟨task, before, -, same, -⟩ := tasks task' current
      rw [launched]
      exact handles.launched task last before (same ▸ handled)
    · intro task' h current crashed
      obtain ⟨task, before, -, same, remembered⟩ := tasks task' current
      rw [same]
      exact handles.pending task h before (remembered h crashed)
  | begun task absent current demand unhandled idle =>
    constructor
    · intro task' last current' handled
      obtain rfl := Option.some.inj (current.symm.trans current')
      rw [unhandled] at handled
      cases handled
    · intro task' h current' crashed
      obtain rfl := Option.some.inj (current.symm.trans current')
      rw [idle] at crashed
      cases crashed
  | ended demand absent =>
    constructor
    · simp [absent]
    · simp [absent]
  | noticed task task' h current after sameLimit published unhandled handled crashed =>
    -- What it has handled now is the latest instance.
    have latest := sound.coherent.published h published
    constructor
    · intro task'' last current' same
      obtain rfl := Option.some.inj (after.symm.trans current')
      obtain rfl := Option.some.inj (handled.symm.trans same)
      rw [launched]
      exact latest.le
    · intro task'' h' current' remembered
      obtain rfl := Option.some.inj (after.symm.trans current')
      obtain ⟨rfl, -⟩ := crashed h' remembered
      exact handled

theorem started (handles : s.Handles) (order : LaunchOrder) (pid : UInt32) (program : Program)
    (host : Host) (deadline : Nat) : (s.started order pid program host deadline).Handles where
  launched := fun task last current handled =>
    (handles.launched task last current handled).trans (Nat.le_succ _)
  pending := handles.pending

end Handles

theorem Reachable.handles (reachable : s.Reachable) : s.Handles :=
  reachable.induction handles_start fun sound handles change => by
    cases change with
    | quiet quiet => exact handles.quiet sound quiet
    | started order pid program host deadline current =>
      exact handles.started order pid program host deadline

/-- **Every crash is answered once.**  Compared with an earlier count, the task has asked
for at most one more launch after each crash, and for none after a crash that it has
still to answer or has not come to. -/
structure RelaunchedOnce (base : Nat → Nat) (s : System) : Prop where
  once : ∀ crashed, s.relaunches crashed ≤ base crashed + 1
  absent : s.restarts = none → ∀ crashed, s.relaunches crashed ≤ base crashed
  pending : ∀ task h, s.restarts = some task → task.stage.crashed? = some h →
    s.relaunches h.generation ≤ base h.generation
  passed : ∀ task crashed, s.restarts = some task → base crashed < s.relaunches crashed →
    ∃ last, task.handled = some last ∧ crashed ≤ last

namespace RelaunchedOnce

variable {base : Nat → Nat}

theorem refl (s : System) : s.RelaunchedOnce s.relaunches where
  once := fun _ => Nat.le_succ _
  absent := fun _ _ => le_rfl
  pending := fun _ _ _ _ => le_rfl
  passed := fun _ _ _ more => absurd more (lt_irrefl _)

/-- The task asks for a launch after the crash that it remembers. -/
theorem relaunched (once : s.RelaunchedOnce base) (handles : s.Handles) {task : RestartTask}
    {crashed : Handle} (current : s.restarts = some task)
    (remembered : task.stage.crashed? = some crashed)
    (after : s'.restarts = some { task with stage := .relaunching })
    (count : ∀ g, s'.relaunches g = s.relaunches g + (crashed.generation == g).toNat) :
    s'.RelaunchedOnce base := by
  have unasked := once.pending task crashed current remembered
  have handled := handles.pending task crashed current remembered
  refine ⟨fun g => ?_, ?_, ?_, ?_⟩
  · rw [count]
    by_cases same : crashed.generation = g
    · subst same
      simpa using unasked
    · rw [beq_false_of_ne same]
      exact once.once g
  · simp [after]
  · intro task' h current' again
    obtain rfl := Option.some.inj (after.symm.trans current')
    cases again
  · intro task' g current' more
    obtain rfl := Option.some.inj (after.symm.trans current')
    by_cases same : crashed.generation = g
    · exact ⟨crashed.generation, handled, same.ge⟩
    · rw [count, beq_false_of_ne same] at more
      exact once.passed task g current more

theorem quiet (once : s.RelaunchedOnce base) (handles : s.Handles) (sound : s.Sound)
    (quiet : Quiet asked s s') (persists : ¬asked .disable) : s'.RelaunchedOnce base := by
  rcases relaunches_of_quiet quiet with
    same | ⟨task, crashed, current, remembered, after, count⟩
  swap
  · exact once.relaunched handles current remembered after count
  cases taskChange_of_quiet quiet with
  | kept absent tasks =>
    refine ⟨by rw [same]; exact once.once, ?_, ?_, ?_⟩
    · rw [same]
      exact fun none => once.absent (absent none)
    · intro task' h current crashed
      obtain ⟨task, before, -, -, remembered⟩ := tasks task' current
      rw [same]
      exact once.pending task h before (remembered h crashed)
    · intro task' crashed current more
      obtain ⟨task, before, -, handled, -⟩ := tasks task' current
      rw [same] at more
      rw [handled]
      exact once.passed task crashed before more
  | begun task absent current demand unhandled idle =>
    -- Before a task begins nothing was asked for.
    refine ⟨by rw [same]; exact once.once, by simp [current], ?_, ?_⟩
    · intro task' h current' crashed
      obtain rfl := Option.some.inj (current.symm.trans current')
      rw [idle] at crashed
      cases crashed
    · intro task' crashed current' more
      rw [same] at more
      exact absurd (once.absent absent crashed) (Nat.not_le.mpr more)
  | ended demand absent => exact absurd demand persists
  | noticed task task' h current after sameLimit published unhandled handled crashed =>
    have latest := sound.coherent.published h published
    -- Whatever was asked for before was for an instance that came before this one.
    have before : ∀ g, base g < s.relaunches g → g < h.generation := by
      intro g more
      obtain ⟨last, was, le⟩ := once.passed task g current more
      have launched := handles.launched task last current was
      have other : last ≠ h.generation := fun same => unhandled (same ▸ was)
      omega
    refine ⟨by rw [same]; exact once.once, by simp [after], ?_, ?_⟩
    · intro task'' h' current' remembered
      obtain rfl := Option.some.inj (after.symm.trans current')
      obtain ⟨rfl, -⟩ := crashed h' remembered
      rw [same]
      exact Nat.not_lt.mp fun more => lt_irrefl _ (before _ more)
    · intro task'' g current' more
      obtain rfl := Option.some.inj (after.symm.trans current')
      rw [same] at more
      exact ⟨h.generation, handled, (before g more).le⟩

theorem started (once : s.RelaunchedOnce base) (order : LaunchOrder) (pid : UInt32)
    (program : Program) (host : Host) (deadline : Nat)
    (current : s.work = some (.launching order .spawning)) :
    (s.started order pid program host deadline).RelaunchedOnce base := by
  have same : (s.started order pid program host deadline).relaunches = s.relaunches := by
    funext crashed
    simp only [relaunches, System.started, current]
    rfl
  refine ⟨?_, ?_, ?_, ?_⟩
  · rw [same]
    exact once.once
  · rw [same]
    exact once.absent
  · rw [same]
    exact once.pending
  · rw [same]
    exact once.passed

end RelaunchedOnce

/-- As long as the restart task is not ended, it asks for one launch after each crash. -/
theorem Reachable.relaunches_run_le (reachable : s.Reachable) (moves : List Move)
    (kept : .disableRestarts ∉ moves) (crashed : Nat) :
    (s.run moves).relaunches crashed ≤ s.relaunches crashed + 1 := by
  have both : (s.run moves).Handles ∧ (s.run moves).RelaunchedOnce s.relaunches := by
    refine reachable.sound.run_induction
      (motive := fun a => a.Handles ∧ a.RelaunchedOnce s.relaunches)
      ⟨reachable.handles, .refl s⟩ moves ?_ ?_
    · intro move member a b sound held quiet
      exact ⟨held.1.quiet sound quiet,
        held.2.quiet held.1 sound quiet (Move.not_demands_disable kept member)⟩
    · intro a order pid program host deadline sound held current
      exact ⟨held.1.started order pid program host deadline,
        held.2.started order pid program host deadline current⟩
  exact both.2.once crashed

/-! ## Attempts in a row -/

/-- **On whose behalf launches were asked for**, latest first, whether they have started a process,
have failed or are in progress. -/
def attempts (s : System) : List Origin :=
  (Work.asker? s.work).toList ++ s.answers.filterMap Answer.asker?

/-- A change that starts no process asks for no launch, or for one for a caller, or for one after
the crash that the task remembers. -/
theorem attempts_of_quiet (quiet : Quiet asked s s') :
    (s'.attempts = s.attempts ∧ ∀ order stage, s'.work = some (.launching order stage) →
        stage.hasProcess = false →
        ∃ stage, s.work = some (.launching order stage) ∧ stage.hasProcess = false) ∨
      s'.attempts = .caller :: s.attempts ∨
      ∃ task crashed, s.restarts = some task ∧ task.stage.crashed? = some crashed ∧
        s' = { s with
          restarts := some { task with stage := .relaunching }
          work := some (.launching (restartOrder crashed) .checking) } ∧
        s'.attempts = .restart crashed.generation :: s.attempts := by
  cases quiet with
  | outside s' core children work restarts answers =>
    exact .inl ⟨by rw [attempts, attempts, work, answers],
      fun order stage current early => ⟨stage, work ▸ current, early⟩⟩
  | dispatched | child | event | attached | switched | enabled | disabled | observed | woken =>
    exact .inl ⟨rfl, fun order stage current early => ⟨stage, current, early⟩⟩
  | launchBegun order idle caller =>
    exact .inr (.inl (by simp [attempts, enter, idle, Work.asker?, caller]))
  | terminateBegun graceful idle =>
    exact .inl ⟨by simp [attempts, enter, idle, Work.asker?], by rintro order stage ⟨⟩⟩
  | entered work next current follows fits =>
    refine .inl ⟨by rw [attempts, attempts, current, ← follows.asker?_eq]; rfl, ?_⟩
    rintro order stage ⟨⟩ early
    cases follows with
    | launching order same => exact ⟨_, current, same.trans early⟩
  | launchEnded order stage result current =>
    refine .inl ⟨?_, fun _ _ after => ?_⟩
    · simp only [attempts, work_endLaunch, answers_endLaunch, current]
      rfl
    · rw [work_endLaunch] at after
      cases after
  | terminateEnded graceful stage result current =>
    refine .inl ⟨?_, by rintro order stage ⟨⟩⟩
    rw [attempts, attempts, current]
    rfl
  | relaunched task crashed current queued idle =>
    refine .inr (.inr ⟨task, crashed, current, by rw [queued]; rfl, rfl, ?_⟩)
    simp [attempts, idle, Work.asker?, restartOrder]

/-- What is published of an instance keeps its number and its restarts. -/
theorem Sound.exists_published_of_quiet (sound : s.Sound) (quiet : Quiet asked s s') {h' : Handle}
    (published : s'.core.published = some h') :
    ∃ h, s.core.published = some h ∧ h'.generation = h.generation ∧ h'.restarts = h.restarts := by
  rcases sound.published_quiet quiet with same | ⟨h, event, exit, shown, changed⟩
  · exact ⟨h', same ▸ published, rfl, rfl⟩
  · obtain rfl := Option.some.inj (published.symm.trans changed)
    exact ⟨h, shown, rfl, rfl⟩

/-- **The attempts are limited**, too.  A crash that was not handled yet, and one that the task
remembers, have behind them one attempt more at most than the handle carries restarts: the one that
was made late, when a caller had launched another instance already. -/
structure Tried (limit : UInt32) (s : System) : Prop where
  untried : s.restarts = none → rowInFront s.attempts = 0
  unhandled : ∀ task h, s.restarts = some task → s.core.published = some h →
    task.handled ≠ some h.generation → rowInFront s.attempts ≤ h.restarts + 1
  pending : ∀ task h, s.restarts = some task → task.stage.crashed? = some h →
    rowInFront s.attempts ≤ h.restarts + 1
  /-- What is newer than the crash that the task remembers was launched for a caller. -/
  late : ∀ task crashed h, s.restarts = some task → task.stage.crashed? = some crashed →
    s.core.published = some h → h.generation ≠ crashed.generation → rowInFront s.attempts = 0
  ordered : ∀ order stage, s.work = some (.launching order stage) → stage.hasProcess = false →
    order.origin ≠ .caller → rowInFront s.attempts ≤ order.restarts + 1
  rows : RowsWithin (limit.toNat + 1) s.attempts

namespace Tried

variable {limit : UInt32}

theorem start (limit : UInt32) (options : SupervisorOptions) (host : Host) (now : Nat) :
    (start options host now).Tried limit where
  untried := fun _ => rfl
  unhandled := by rintro task h ⟨⟩
  pending := by rintro task h ⟨⟩
  late := by rintro task crashed h ⟨⟩
  ordered := by rintro order stage ⟨⟩
  rows := rowsWithin_nil _

/-- An attempt for a caller ends the row. -/
theorem of_caller (tried : s.Tried limit) (asks : s'.attempts = .caller :: s.attempts) :
    s'.Tried limit := by
  have front : rowInFront s'.attempts = 0 := by rw [asks, rowInFront_cons, if_pos rfl]
  refine ⟨fun _ => front, ?_, ?_, fun _ _ _ _ _ _ _ => front, ?_, ?_⟩
  · intro task h _ _ _
    omega
  · intro task h _ _
    omega
  · intro order stage _ _ _
    omega
  · rw [asks]
    exact tried.rows.cons (by rw [rowInFront_cons, if_pos rfl]; exact Nat.zero_le _)

/-- A change that asks for no launch leaves the row as it is. -/
theorem of_same (tried : s.Tried limit) (sound : s.Sound) (quiet : Quiet asked s s')
    (persists : ¬asked .disable) (same : s'.attempts = s.attempts)
    (idle : ∀ order stage, s'.work = some (.launching order stage) → stage.hasProcess = false →
      ∃ stage, s.work = some (.launching order stage) ∧ stage.hasProcess = false) :
    s'.Tried limit := by
  suffices tasks : (s'.restarts = none → rowInFront s.attempts = 0) ∧
      (∀ task h, s'.restarts = some task → s'.core.published = some h →
        task.handled ≠ some h.generation → rowInFront s.attempts ≤ h.restarts + 1) ∧
      (∀ task h, s'.restarts = some task → task.stage.crashed? = some h →
        rowInFront s.attempts ≤ h.restarts + 1) ∧
      ∀ task crashed h, s'.restarts = some task → task.stage.crashed? = some crashed →
        s'.core.published = some h → h.generation ≠ crashed.generation →
        rowInFront s.attempts = 0 by
    obtain ⟨untried, unhandled, pending, late⟩ := tasks
    refine ⟨same ▸ untried, same ▸ unhandled, same ▸ pending, same ▸ late, ?_, same ▸ tried.rows⟩
    intro order stage current early other
    obtain ⟨stage, before, early⟩ := idle order stage current early
    rw [same]
    exact tried.ordered order stage before early other
  cases taskChange_of_quiet quiet with
  | kept absent tasks =>
    refine ⟨fun none => tried.untried (absent none), ?_, ?_, ?_⟩
    · intro task' h' current published unhandled
      obtain ⟨task, before, -, handled, -⟩ := tasks task' current
      obtain ⟨h, shown, number, restarts⟩ := sound.exists_published_of_quiet quiet published
      rw [restarts]
      exact tried.unhandled task h before shown (by rwa [handled, number] at unhandled)
    · intro task' h current crashed
      obtain ⟨task, before, -, -, remembered⟩ := tasks task' current
      exact tried.pending task h before (remembered h crashed)
    · intro task' crashed h' current remembered published newer
      obtain ⟨task, before, -, -, kept⟩ := tasks task' current
      obtain ⟨h, shown, number, -⟩ := sound.exists_published_of_quiet quiet published
      exact tried.late task crashed h before (kept crashed remembered) shown (number ▸ newer)
  | begun task absent current demand unhandled unremembered =>
    have front := tried.untried absent
    refine ⟨fun _ => front, ?_, ?_, fun _ _ _ _ _ _ _ => front⟩
    · intro task h _ _ _
      omega
    · intro task h _ _
      omega
  | ended demand absent => exact absurd demand persists
  | noticed task task' h current after sameLimit published unhandled handled crashed =>
    have below := tried.unhandled task h current published unhandled
    refine ⟨by simp [after], ?_, ?_, ?_⟩
    · intro task'' h' current' published' unhandled'
      obtain rfl := Option.some.inj (after.symm.trans current')
      obtain ⟨before, shown, number, -⟩ := sound.exists_published_of_quiet quiet published'
      obtain rfl := Option.some.inj (published.symm.trans shown)
      exact absurd (handled.trans (congrArg some number.symm)) unhandled'
    · intro task'' h' current' remembered
      obtain rfl := Option.some.inj (after.symm.trans current')
      obtain ⟨rfl, -⟩ := crashed h' remembered
      exact below
    · intro task'' crashed' h' current' remembered published' newer
      obtain rfl := Option.some.inj (after.symm.trans current')
      obtain ⟨rfl, -⟩ := crashed crashed' remembered
      obtain ⟨before, shown, number, -⟩ := sound.exists_published_of_quiet quiet published'
      obtain rfl := Option.some.inj (published.symm.trans shown)
      exact absurd number newer

/-- An attempt after the crash that the task remembers makes the row longer by one. -/
theorem relaunched (tried : s.Tried limit) (limited : s.Limited limit) (handles : s.Handles)
    {task : RestartTask} {crashed : Handle} (current : s.restarts = some task)
    (remembered : task.stage.crashed? = some crashed)
    (asks : s'.attempts = .restart crashed.generation :: s.attempts)
    (after : s' = { s with
      restarts := some { task with stage := .relaunching }
      work := some (.launching (restartOrder crashed) .checking) }) : s'.Tried limit := by
  have front : rowInFront s'.attempts = rowInFront s.attempts + 1 := by
    rw [asks, rowInFront_cons, if_neg (by simp)]
  have below := tried.pending task crashed current remembered
  have allowed := (limited.pending task crashed current remembered).2
  have rows : RowsWithin (limit.toNat + 1) s'.attempts := by
    rw [asks] at front ⊢
    exact tried.rows.cons (by omega)
  subst after
  refine ⟨by rintro ⟨⟩, ?_, ?_, ?_, ?_, rows⟩
  · rintro _ h ⟨⟩ published unhandled
    -- The task has handled the crash that it answers, so another instance is shown.
    have newer : h.generation ≠ crashed.generation := fun same =>
      unhandled (by rw [same]; exact handles.pending task crashed current remembered)
    have none := tried.late task crashed h current remembered published newer
    omega
  · rintro _ h ⟨⟩ ⟨⟩
  · rintro _ _ h ⟨⟩ ⟨⟩
  · rintro _ _ ⟨⟩ - -
    refine front.trans_le ?_
    simp only [restartOrder]
    omega

theorem quiet (tried : s.Tried limit) (limited : s.Limited limit) (handles : s.Handles)
    (sound : s.Sound) (quiet : Quiet asked s s') (persists : ¬asked .disable) :
    s'.Tried limit := by
  rcases attempts_of_quiet quiet with
    ⟨same, idle⟩ | asks | ⟨task, crashed, current, remembered, after, asks⟩
  · exact tried.of_same sound quiet persists same idle
  · exact tried.of_caller asks
  · exact tried.relaunched limited handles current remembered asks after

theorem started (tried : s.Tried limit) (remembers : s.Remembers) (order : LaunchOrder)
    (pid : UInt32) (program : Program) (host : Host) (deadline : Nat)
    (current : s.work = some (.launching order .spawning)) :
    (s.started order pid program host deadline).Tried limit := by
  have same : (s.started order pid program host deadline).attempts = s.attempts := by
    rw [attempts, attempts, current]
    rfl
  have front (caller : order.origin = .caller) : rowInFront s.attempts = 0 := by
    simp [attempts, current, Work.asker?, caller, rowInFront_cons]
  refine ⟨?_, ?_, ?_, ?_, ?_, ?_⟩
  · rw [same]
    exact tried.untried
  · rintro task h restarts ⟨⟩ unhandled
    rw [same]
    by_cases caller : order.origin = .caller
    · rw [front caller]
      exact Nat.zero_le _
    · exact tried.ordered order _ current rfl caller
  · rw [same]
    exact tried.pending
  · intro task crashed h restarts remembered published newer
    rw [same]
    exact front (remembers.caller_of_crashed current restarts remembered)
  · rintro _ _ ⟨⟩ ⟨⟩
  · rw [same]
    exact tried.rows

end Tried

/-- As long as the restart task is not ended, the attempts in every row stay limited. -/
theorem rowsWithin_attempts_run_start (limit : UInt32) (options : SupervisorOptions)
    (host : Host) (now : Nat) (moves : List Move)
    (respects : ∀ move ∈ moves, move.Respects limit) (kept : .disableRestarts ∉ moves) :
    RowsWithin (limit.toNat + 1) ((System.start options host now).run moves).attempts := by
  have reachable := reachable_start options host now
  have all : ((System.start options host now).run moves).Remembers ∧
      ((System.start options host now).run moves).Limited limit ∧
      ((System.start options host now).run moves).Handles ∧
      ((System.start options host now).run moves).Tried limit := by
    refine reachable.sound.run_induction
      (motive := fun a => a.Remembers ∧ a.Limited limit ∧ a.Handles ∧ a.Tried limit)
      ⟨reachable.remembers, .start limit options host now, reachable.handles,
        .start limit options host now⟩ moves ?_ ?_
    · rintro move member a b sound ⟨remembers, limited, handles, tried⟩ quiet
      exact ⟨remembers.quiet sound quiet,
        limited.quiet sound quiet fun _ demanded => (respects move member).demands demanded,
        handles.quiet sound quiet,
        tried.quiet limited handles sound quiet (Move.not_demands_disable kept member)⟩
    · rintro a order pid program host deadline sound ⟨remembers, limited, handles, tried⟩ current
      exact ⟨remembers.change sound (.started order pid program host deadline current),
        limited.started remembers order pid program host deadline current,
        handles.started order pid program host deadline,
        tried.started remembers order pid program host deadline current⟩
  exact all.2.2.2.rows

/-- **Restarts are limited.**  In every run in which instances are created by launches of
callers and by the restart task alone, whatever else happens,

* no handle that is published carries more restarts than the limit;
* as long as the task is not ended, it asks for at most one more launch after the crash of
  an instance, whether that launch starts a process or fails;
* no more processes than the limit are started for the task one after the other without
  one for a caller between them;
* if the task is never ended, it asks for no more than one launch above the limit without a
  caller asking for one between them, whether these launches are refused, fail or succeed
  (the one above comes late: it answers a crash after which a caller has launched another
  instance already, is refused, and is not counted in what that instance carries);
* a launch that the task is about to ask for carries a number of thirty-two bits. -/
theorem restarts_limited (options : SupervisorOptions) (host : Host) (now : Nat)
    (limit : UInt32) (before after : List Move)
    (respects : ∀ move ∈ before ++ after, move.Respects limit) :
    let s := (start options host now).run before
    let t := s.run after
    (∀ h, t.core.published = some h → h.restarts ≤ limit.toNat) ∧
    (.disableRestarts ∉ after → ∀ crashed, t.relaunches crashed ≤ s.relaunches crashed + 1) ∧
    (∀ newer row older, t.children = newer ++ row ++ older →
      (∀ c ∈ row, c.origin ≠ .caller) → row.length ≤ limit.toNat) ∧
    (.disableRestarts ∉ before ++ after → ∀ newer row older,
      t.attempts = newer ++ row ++ older → .caller ∉ row → row.length ≤ limit.toNat + 1) ∧
    ∀ task crashed, t.restarts = some task → task.stage.crashed? = some crashed →
      (restartOrder crashed).restarts < UInt32.size := by
  intro s t
  have reachable : s.Reachable := ⟨options, host, now, before, rfl⟩
  have whole : t = (start options host now).run (before ++ after) := (run_append _ _ _).symm
  have limited : t.Limited limit := by
    rw [whole]
    exact (Limited.start limit options host now).run (reachable_start options host now) _ respects
  refine ⟨fun h published => (limited.published h published).2,
    fun kept => reachable.relaunches_run_le after kept, ?_, ?_, ?_⟩
  · intro newer row older split nobody
    have origins : t.origins
        = newer.map Child.origin ++ row.map Child.origin ++ older.map Child.origin := by
      rw [System.origins, split, List.map_append, List.map_append]
    have length := limited.rows _ _ _ origins fun member => by
      obtain ⟨c, memC, caller⟩ := List.mem_map.mp member
      exact nobody c memC caller
    rwa [List.length_map] at length
  · rw [whole]
    exact rowsWithin_attempts_run_start limit options host now (before ++ after) respects
  · intro task crashed current remembered
    have below := (limited.pending task crashed current remembered).2
    have bound := limit.toNat_lt
    simp only [restartOrder, UInt32.size]
    omega

/-- One restart is allowed, and an instance is launched. -/
def firstLaunch : List Move :=
  .enableRestarts 1 2000 :: .launch bareCommand {} :: launchCourse 1 1000

/-- The first instance crashes and is restarted, and then the second one crashes. -/
def twoCrashes : List Move :=
  [.exit 1 (.ofCode 1), .watch 1, .watch 1, .restart, .pass 2000, .restart, .restart]
    ++ launchCourse 2 1001 ++ [.exit 2 (.ofCode 1), .watch 2, .watch 2, .restart]

/-- With a limit of one the second crash is left: the second instance carries one restart
and is the only one that was started for the task. -/
theorem one_restart_for_two_crashes :
    let t := ((start bareOptions bareHost 0).run firstLaunch).run twoCrashes
    (t.origins = [.restart 1, .caller] ∧ t.core.published.map Handle.phase = some .crashed) ∧
    (∀ h, t.core.published = some h → h.restarts ≤ 1) ∧ t.relaunches 1 ≤ 1 := by
  have respects : ∀ move ∈ firstLaunch ++ twoCrashes, move.Respects 1 := by
    simp [firstLaunch, twoCrashes, launchCourse, Move.Respects]
  have kept : .disableRestarts ∉ twoCrashes := by
    simp [twoCrashes, launchCourse]
  have unasked : ((start bareOptions bareHost 0).run firstLaunch).relaunches 1 = 0 := by decide
  obtain ⟨published, once, -, -, -⟩ :=
    restarts_limited bareOptions bareHost 0 1 firstLaunch twoCrashes respects
  refine ⟨⟨by decide, by decide⟩, published, ?_⟩
  exact (once kept 1).trans (by rw [unasked])

end System

end GuestSupervisor.Supervisor
