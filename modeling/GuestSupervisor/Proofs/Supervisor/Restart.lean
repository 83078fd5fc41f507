import GuestSupervisor.Proofs.Supervisor.Coherence

/-!
# Restarts after a crash

The restart task remembers an instance that has crashed, sleeps, and then asks for a
launch.  What it remembers stays true, but it may not be the latest any more: while
the task sleeps, callers may launch and stop others.  This module says exactly when a
restart follows a crash, and when nothing follows a stop.

## Main Definitions

* `System.CrashedBefore` — an instance has crashed, and only callers have launched
  newer ones.
* `System.Remembers` — what the restart task and its launch remember is so.
* `System.StoppedSince` — a newer instance was launched by a caller and has stopped.
* `System.RestartPending` — the restart task is about to ask for a launch.

## Main Statements

* `System.Remembers.change` — every change keeps what is remembered true.
* `System.restart_exactly_when` — when a restart follows a crash, and when nothing
  follows a stop.
-/

namespace GuestSupervisor.Supervisor

open Instance

/-- The instance whose crash the restart task has still to answer. -/
def RestartStage.crashed? : RestartStage → Option Handle
  | .sleeping h _ | .queued h => some h
  | _ => none

namespace System

variable {asked : Demand → Prop} {s s' : System} {generation : Nat}

/-! ## What is remembered -/

/-- **An instance has crashed**, and every newer one was launched for a caller. -/
structure CrashedBefore (s : System) (generation : Nat) : Prop where
  le : generation ≤ s.core.launched
  /-- As long as it is the latest, it is shown as crashed. -/
  latest : generation = s.core.launched → ∃ h, s.core.published = some h ∧ h.phase = .crashed
  newer : ∀ c ∈ s.children, generation < c.generation → c.origin = .caller

/-- **What the restart task and its launch remember is so.** -/
structure Remembers (s : System) : Prop where
  /-- While a launch of the restart task is in progress, the task waits for it. -/
  waits : ∀ order stage g, s.work = some (.launching order stage) → order.origin = .restart g →
    ∀ task, s.restarts = some task → task.stage = .relaunching
  /-- The task has seen a crash. -/
  pending : ∀ task h, s.restarts = some task → task.stage.crashed? = some h →
    s.CrashedBefore h.generation
  /-- So has the launch that it asks for, until there is a process. -/
  ordered : ∀ order stage g, s.work = some (.launching order stage) → order.origin = .restart g →
    stage.hasProcess = false → s.CrashedBefore g

theorem remembers_start (options : SupervisorOptions) (host : Host) (now : Nat) :
    (start options host now).Remembers where
  waits := by simp [start]
  pending := by simp [start]
  ordered := by simp [start]

/-! ## Quiet changes -/

/-- A crash stays a crash whatever happens, short of a launch. -/
theorem Sound.crashedBefore_quiet (sound : s.Sound) (quiet : Quiet asked s s')
    (crashed : s.CrashedBefore generation) : s'.CrashedBefore generation where
  le := by rw [launched_quiet quiet]; exact crashed.le
  latest := by
    intro latest
    obtain ⟨h, published, phase⟩ := crashed.latest (latest.trans (launched_quiet quiet))
    obtain ⟨h', published', advances⟩ :=
      (sound.precedes_quiet quiet).published (launched_quiet quiet) h published
    exact ⟨h', published', (advances.phase (by rw [phase]; rfl)).trans phase⟩
  newer := by
    intro c' member newer
    obtain ⟨c, memC, number, origin⟩ := origins_quiet quiet member
    rw [origin]
    exact crashed.newer c memC (number ▸ newer)

/-- What leaves the operation and the restart task alone leaves what they remember. -/
theorem Remembers.of_eq (remembers : s.Remembers) (work : s'.work = s.work)
    (restarts : s'.restarts = s.restarts)
    (kept : ∀ g, s.CrashedBefore g → s'.CrashedBefore g) : s'.Remembers where
  waits := by rw [work, restarts]; exact remembers.waits
  pending := by
    rw [restarts]
    exact fun task h current crashed => kept _ (remembers.pending task h current crashed)
  ordered := by
    rw [work]
    exact fun order stage g current origin early =>
      kept _ (remembers.ordered order stage g current origin early)

/-- When no launch of the restart task is in progress, only the task remembers. -/
theorem Remembers.of_pending
    (other : ∀ order stage g, s.work = some (.launching order stage) → order.origin ≠ .restart g)
    (pending : ∀ task h, s.restarts = some task → task.stage.crashed? = some h →
      s.CrashedBefore h.generation) : s.Remembers where
  waits := fun order stage g current origin => absurd origin (other order stage g current)
  pending := pending
  ordered := fun order stage g current origin => absurd origin (other order stage g current)

/-- What the restart task makes of what is published: it passes over it, or it has seen
a crash that it has not handled yet, and then the limit says whether there will be a
restart. -/
theorem observe_cases (s : System) (task : RestartTask) :
    s.observe task = { task with seen := s.core.revision } ∨
      ∃ h, s.core.published = some h ∧ h.phase = .crashed ∧ task.handled ≠ some h.generation ∧
        (s.observe task
            = { task with seen := s.core.revision, handled := some h.generation } ∨
          h.restarts < task.maxRestarts.toNat ∧
            s.observe task
              = { task with
                  seen := s.core.revision
                  handled := some h.generation
                  stage := .sleeping h (s.now + task.backoff) }) := by
  unfold observe
  cases s.core.published with
  | none => exact Or.inl rfl
  | some h =>
    simp only
    split
    · exact Or.inl rfl
    · rename_i fresh
      obtain ⟨crashed, unhandled⟩ := not_or.mp fresh
      refine Or.inr ⟨h, rfl, not_not.mp crashed, unhandled, ?_⟩
      split
      · exact Or.inl rfl
      · rename_i below
        exact Or.inr ⟨Nat.not_le.mp below, rfl⟩

/-- The end of a launch leaves the restart task alone or has waited for it. -/
theorem restarts_endLaunch_cases (s : System) (order : LaunchOrder)
    (result : Except LaunchError Handle) :
    (s.endLaunch order result).restarts = s.restarts ∨
      (s.endLaunch order result).restarts
        = s.restarts.map fun task => { task with stage := .idle } := by
  unfold endLaunch
  cases order.origin with
  | caller => exact Or.inl rfl
  | restart g => exact Or.inr rfl

/-- An instance that is shown as crashed has no newer one. -/
theorem Sound.crashedBefore_of_published (sound : s.Sound) {h : Handle}
    (published : s.core.published = some h) (phase : h.phase = .crashed) :
    s.CrashedBefore h.generation where
  le := Nat.le_of_eq (sound.coherent.published h published)
  latest := fun _ => ⟨h, published, phase⟩
  newer := by
    intro c member newer
    have numbers : c.generation ∈ s.children.map Child.generation := List.mem_map_of_mem member
    rw [sound.numbered, List.mem_reverse, List.mem_range'_1] at numbers
    have latest := sound.coherent.published h published
    omega

theorem isRelaunching_of_origin {order : LaunchOrder} {stage : LaunchStage}
    (current : s.work = some (.launching order stage))
    (origin : order.origin = .restart generation) : s.isRelaunching = true := by
  simp [isRelaunching, current, origin]

/-- While the restart task does not wait for a launch, none of its launches is in
progress. -/
theorem Remembers.origin_ne (remembers : s.Remembers) {task : RestartTask}
    (current : s.restarts = some task) (other : task.stage ≠ .relaunching) (order : LaunchOrder)
    (stage : LaunchStage) (g : Nat) (work : s.work = some (.launching order stage)) :
    order.origin ≠ .restart g :=
  fun origin => other (remembers.waits order stage g work origin task current)

/-- A launch is for a caller as long as the task remembers a crash: in one of its own the task
would wait and remember nothing. -/
theorem Remembers.caller_of_crashed (remembers : s.Remembers) {order : LaunchOrder}
    {stage : LaunchStage} {task : RestartTask} {crashed : Handle}
    (current : s.work = some (.launching order stage)) (restarts : s.restarts = some task)
    (remembered : task.stage.crashed? = some crashed) : order.origin = .caller := by
  cases origin : order.origin with
  | caller => rfl
  | restart g =>
    refine absurd origin (remembers.origin_ne restarts ?_ order stage g current)
    intro waits
    simp [waits, RestartStage.crashed?] at remembered

theorem Remembers.quiet (remembers : s.Remembers) (sound : s.Sound) (quiet : Quiet asked s s') :
    s'.Remembers := by
  have kept : ∀ g, s.CrashedBefore g → s'.CrashedBefore g :=
    fun g crashed => sound.crashedBefore_quiet quiet crashed
  have keptPending : ∀ task h, s.restarts = some task → task.stage.crashed? = some h →
      s'.CrashedBefore h.generation :=
    fun task h current crashed => kept _ (remembers.pending task h current crashed)
  cases quiet with
  | outside s' core children work restarts answers => exact remembers.of_eq work restarts kept
  | dispatched | child | event | attached | switched => exact remembers.of_eq rfl rfl kept
  | launchBegun order idle caller demand =>
    refine .of_pending ?_ keptPending
    rintro _ _ g ⟨⟩
    simp [caller]
  | terminateBegun graceful idle =>
    refine .of_pending ?_ keptPending
    rintro _ _ g ⟨⟩
  | entered work next current follows fits =>
    cases follows with
    | terminating graceful stage next =>
      refine .of_pending ?_ keptPending
      rintro _ _ g ⟨⟩
    | launching order same =>
      refine ⟨?_, keptPending, ?_⟩
      · rintro _ _ g ⟨⟩ origin
        exact remembers.waits _ _ g current origin
      · rintro _ _ g ⟨⟩ origin early
        exact kept _ (remembers.ordered _ _ g current origin (same.trans early))
  | launchEnded order stage result current accounts =>
    refine .of_pending (by simp) ?_
    intro task h after crashed
    rcases s.restarts_endLaunch_cases order result with same | idle
    · exact keptPending task h (same.symm.trans after) crashed
    · obtain ⟨before, -, rfl⟩ := Option.map_eq_some_iff.mp (idle.symm.trans after)
      cases crashed
  | terminateEnded graceful stage result current => exact .of_pending (by simp [answer]) keptPending
  | enabled maxRestarts backoff absent quiet =>
    -- A task that begins waits for nothing, so no launch of one before it may go on.
    refine .of_pending ?_ ?_
    · intro order stage g current origin
      simp [isRelaunching_of_origin (s := s) current origin] at quiet
    · rintro _ h ⟨⟩ crashed
      simp [RestartStage.crashed?] at crashed
  | disabled =>
    refine ⟨by simp, by simp, ?_⟩
    exact fun order stage g current origin early =>
      kept _ (remembers.ordered order stage g current origin early)
  | observed task current idle =>
    refine .of_pending (remembers.origin_ne current (by simp [idle])) ?_
    rintro _ h ⟨⟩ crashed
    rcases s.observe_cases task with same | ⟨h', published, phase, -, same | ⟨-, same⟩⟩
    · simp [same, idle, RestartStage.crashed?] at crashed
    · simp [same, idle, RestartStage.crashed?] at crashed
    · obtain rfl : h' = h := by simpa [same, RestartStage.crashed?] using crashed
      exact kept _ (sound.crashedBefore_of_published published phase)
  | woken task crashed wake current asleep due =>
    refine .of_pending (remembers.origin_ne current (by simp [asleep])) ?_
    rintro _ h ⟨⟩ ⟨⟩
    exact keptPending task crashed current (by rw [asleep]; rfl)
  | relaunched task crashed current queued idle =>
    -- What the task remembers passes to its launch.
    refine ⟨?_, ?_, ?_⟩
    · rintro _ _ g ⟨⟩ origin _ ⟨⟩
      rfl
    · rintro _ h ⟨⟩ ⟨⟩
    · rintro _ _ g ⟨⟩ ⟨⟩ -
      exact keptPending task crashed current (by rw [queued]; rfl)

/-! ## New processes -/

/-- A crash stays a crash when a caller's process is started. -/
theorem CrashedBefore.started (crashed : s.CrashedBefore generation) {order : LaunchOrder}
    (caller : order.origin = .caller) (pid : UInt32) (program : Program) (host : Host)
    (deadline : Nat) : (s.started order pid program host deadline).CrashedBefore generation where
  le := Nat.le_succ_of_le crashed.le
  latest := fun latest => absurd latest (Nat.ne_of_lt (Nat.lt_succ_of_le crashed.le))
  newer := by
    intro c member newer
    rcases List.mem_cons.mp member with rfl | old
    · exact caller
    · exact crashed.newer c old newer

/-- **Every change keeps what is remembered true.**  While the restart task remembers a
crash, processes are started for callers alone. -/
theorem Remembers.change (remembers : s.Remembers) (sound : s.Sound) (change : Change s s') :
    s'.Remembers := by
  cases change with
  | quiet quiet => exact remembers.quiet sound quiet
  | started order pid program host deadline current =>
    refine ⟨?_, ?_, ?_⟩
    · rintro _ _ g ⟨⟩ origin
      exact remembers.waits order _ g current origin
    · intro task h restarts crashed
      have caller := remembers.caller_of_crashed current restarts crashed
      exact (remembers.pending task h restarts crashed).started caller pid program host deadline
    · rintro _ _ g ⟨⟩ - ⟨⟩

theorem Reachable.remembers (reachable : s.Reachable) : s.Remembers :=
  reachable.induction remembers_start fun sound remembers change => remembers.change sound change

/-! ## What a restart follows -/

theorem eq_of_isTerminal {phase : Phase} (terminal : phase.isTerminal) :
    phase = .stopped ∨ phase = .crashed := by
  cases phase <;> simp_all [Phase.isTerminal]

/-- When the latest process is gone, its instance is shown as stopped or crashed, and as
it is published if that has ended. -/
theorem Sound.shown_of_isGone (sound : s.Sound) (gone : s.isGone s.core.launched) {h : Handle}
    (published : s.core.published = some h) :
    ∃ h', s.status.1 = some h' ∧ (h'.phase = .stopped ∨ h'.phase = .crashed) ∧
      (h.phase.isTerminal → h' = h) := by
  have latest := sound.coherent.published h published
  rcases s.status_cases with ⟨none, -⟩ | ⟨h', published', shown⟩
  · simp [published] at none
  · obtain rfl : h = h' := Option.some.inj (published.symm.trans published')
    rcases shown with ⟨ended, same⟩ | ⟨live, -, ⟨-, same⟩ | ⟨-, same⟩⟩
    · have terminal : h.phase.isTerminal := by
        rcases ended with terminal | runs
        · exact terminal
        · rw [latest, gone] at runs
          cases runs
      exact ⟨h, by rw [same], eq_of_isTerminal terminal, fun _ => rfl⟩
    · have recorded := sound.coherent.published_transition published (.exited false) none
      rw [← latest] at recorded
      refine ⟨_, by rw [same]; exact recorded, ?_, fun terminal => ?_⟩
      · exact eq_of_isTerminal (isTerminal_step_exited h.phase false)
      · simp [live] at terminal
    · refine ⟨_, by rw [same], ?_, fun terminal => ?_⟩
      · by_cases stopping : h.phase = .stopping <;> simp [stopping]
      · simp [live] at terminal

/-- **An instance newer than a crashed one was launched for a caller and is shown as
stopped.** -/
def StoppedSince (s : System) (crashed : Nat) : Prop :=
  ∃ h, s.status.1 = some h ∧ h.phase = .stopped ∧ crashed < h.generation ∧
    ∃ c ∈ s.children, c.generation = h.generation ∧ c.origin = .caller

/-- A restart that is about to start its process follows a crash, unless what callers
did since then has ended in a stop. -/
theorem Reachable.shown_crashed_iff (reachable : s.Reachable) {order : LaunchOrder}
    (current : s.work = some (.launching order .spawning))
    (origin : order.origin = .restart generation) :
    (∃ h, s.status.1 = some h ∧ h.phase = .crashed) ↔ ¬s.StoppedSince generation := by
  have sound := reachable.sound
  have crashed := reachable.remembers.ordered order _ generation current origin rfl
  have gone : s.isGone s.core.launched := sound.fits _ current
  -- Something is published: the crash itself, or whatever was launched after it.
  obtain ⟨h, published⟩ : ∃ h, s.core.published = some h := by
    by_cases latest : generation = s.core.launched
    · obtain ⟨h, published, -⟩ := crashed.latest latest
      exact ⟨h, published⟩
    · have launched := crashed.le
      exact Option.isSome_iff_exists.mp (sound.coherent.isSome.mpr (by omega))
  obtain ⟨shown, status, phase, unchanged⟩ := sound.shown_of_isGone gone published
  have number := sound.generation_of_status status
  constructor
  · rintro ⟨h', status', crashed'⟩ ⟨h'', status'', stopped, -⟩
    obtain rfl : h' = h'' := Option.some.inj (status'.symm.trans status'')
    rw [crashed'] at stopped
    cases stopped
  · intro notStopped
    refine ⟨shown, status, ?_⟩
    -- Were it stopped, it could not be the crashed instance, so a caller launched it.
    rcases phase with stopped | crashed'
    · have newer : generation < shown.generation := by
        have le := crashed.le
        by_contra notNewer
        obtain ⟨h', published', phase'⟩ := crashed.latest (by omega)
        obtain rfl : h = h' := Option.some.inj (published.symm.trans published')
        rw [unchanged (by rw [phase']; rfl), phase'] at stopped
        cases stopped
      obtain ⟨c, member, same⟩ : ∃ c ∈ s.children, c.generation = shown.generation :=
        sound.exists_child (by omega) (by omega)
      exact absurd ⟨shown, status, stopped, newer, c, member, same,
        crashed.newer c member (by omega)⟩ notStopped
    · exact crashed'

/-! ## What follows a stop -/

/-- **The restart task is about to ask for a launch.** -/
def RestartPending (s : System) : Prop :=
  ∃ task h, s.restarts = some task ∧ task.stage.crashed? = some h

/-- **A stop has come to rest**: the latest instance has stopped, no launch is in progress
and none is pending. -/
structure AtRest (s : System) : Prop where
  stopped : ∃ h, s.core.published = some h ∧ h.phase = .stopped
  work : ∀ order stage, s.work ≠ some (.launching order stage)
  notPending : ¬s.RestartPending

/-- Nothing but a caller who asks for an instance ends the rest after a stop. -/
theorem AtRest.quiet (rest : s.AtRest) (sound : s.Sound) (quiet : Quiet asked s s')
    (nobody : ∀ order, ¬asked (.launch order)) : s'.AtRest := by
  obtain ⟨h, published, phase⟩ := rest.stopped
  have stopped : ∃ h, s'.core.published = some h ∧ h.phase = .stopped := by
    obtain ⟨h', published', advances⟩ :=
      (sound.precedes_quiet quiet).published (launched_quiet quiet) h published
    exact ⟨h', published', (advances.phase (by rw [phase]; rfl)).trans phase⟩
  have notPending := rest.notPending
  cases quiet with
  | outside s' core children work restarts answers =>
    exact ⟨stopped, by rw [work]; exact rest.work, by
      unfold RestartPending; rw [restarts]; exact notPending⟩
  | dispatched | child | event | attached | switched => exact ⟨stopped, rest.work, notPending⟩
  | launchBegun order idle caller demand => exact absurd demand (nobody order)
  | terminateBegun => exact ⟨stopped, by simp [enter], notPending⟩
  | entered work next current follows fits =>
    cases follows with
    | launching order same => exact absurd current (rest.work order _)
    | terminating => exact ⟨stopped, by simp [enter], notPending⟩
  | launchEnded order stage result current => exact absurd current (rest.work order stage)
  | terminateEnded => exact ⟨stopped, by simp [answer], notPending⟩
  | enabled =>
    refine ⟨stopped, rest.work, ?_⟩
    rintro ⟨_, h, ⟨⟩, crashed⟩
    simp [RestartStage.crashed?] at crashed
  | disabled =>
    refine ⟨stopped, rest.work, ?_⟩
    rintro ⟨_, h, ⟨⟩, -⟩
  | observed task current idle =>
    refine ⟨stopped, rest.work, ?_⟩
    rintro ⟨_, h', ⟨⟩, crashed⟩
    rcases s.observe_cases task with same | ⟨h'', published', phase', -⟩
    · simp [same, idle, RestartStage.crashed?] at crashed
    · obtain rfl : h = h'' := Option.some.inj (published.symm.trans published')
      rw [phase] at phase'
      cases phase'
  | woken task crashed wake current asleep due =>
    exact absurd ⟨task, crashed, current, by rw [asleep]; rfl⟩ notPending
  | relaunched task crashed current queued idle =>
    exact absurd ⟨task, crashed, current, by rw [queued]; rfl⟩ notPending

theorem AtRest.quiets (rest : s.AtRest) (sound : s.Sound) (quiets : Quiets asked s s')
    (nobody : ∀ order, ¬asked (.launch order)) : s'.AtRest := by
  induction quiets with
  | refl => exact rest
  | tail earlier last ih => exact ih.quiet (sound.quiets earlier) last nobody

/-- As long as no caller asks for an instance, a stop that has come to rest stays so
and nothing is started. -/
theorem AtRest.run (rest : s.AtRest) (sound : s.Sound) (moves : List Move)
    (nobody : ∀ move ∈ moves, ¬move.asks) :
    (s.run moves).AtRest ∧ (s.run moves).core.launched = s.core.launched := by
  induction moves generalizing s with
  | nil => exact ⟨rest, rfl⟩
  | cons move moves ih =>
    have quiets : Quiets move.demands s (s.apply move) := by
      rcases sound.apply_cases move with quiets | ⟨order, -, -, -, -, current, -⟩
      · exact quiets
      · exact absurd current (rest.work order _)
    have silent := Move.not_demands_launch (nobody move List.mem_cons_self)
    have after := ih (rest.quiets sound quiets silent) (sound.quiets quiets)
      fun m member => nobody m (List.mem_cons_of_mem _ member)
    exact ⟨after.1, after.2.trans (launched_quiets quiets)⟩

/-- A launch gets as far as starting its process when the latest instance has ended. -/
theorem work_proceed_checking {order : LaunchOrder} {h : Handle}
    (current : s.work = some (.launching order .checking)) (published : s.core.published = some h)
    (ended : h.phase.isTerminal) : s.proceed.work = some (.launching order .spawning) := by
  have shown : s.status = (some h, s) := by simp [status, published, ended]
  have notLive : (some h).filter Handle.isLive = none := by
    simp [Option.filter, Handle.isLive, ended]
  simp only [proceed, current, proceedLaunch, liveStatus, shown, notLive, enter]

theorem restart_of_queued {task : RestartTask} {crashed : Handle} (current : s.restarts = some task)
    (queued : task.stage = .queued crashed) (idle : s.work = none) :
    s.restart.work = some (.launching (restartOrder crashed) .checking) ∧
      s.restart.core = s.core := by
  simp [restart, current, queued, idle]

/-- A pending restart gets as far as starting its process when no operation is in progress,
though the latest instance has stopped. -/
theorem RestartPending.run_of_idle (pending : s.RestartPending) {h : Handle}
    (published : s.core.published = some h) (phase : h.phase = .stopped) (idle : s.work = none) :
    ∃ moves, (∀ move ∈ moves, ¬move.asks) ∧
      ∃ order, (s.run moves).work = some (.launching order .spawning) := by
  obtain ⟨task, crashed, current, remembered⟩ := pending
  have ended : h.phase.isTerminal := by rw [phase]; rfl
  cases stage : task.stage with
  | idle | relaunching => simp [stage, RestartStage.crashed?] at remembered
  | queued crashed' =>
    obtain ⟨work, core⟩ := restart_of_queued current stage idle
    exact ⟨[.restart, .proceed], by simp [Move.asks], _,
      work_proceed_checking work ((congrArg Core.published core).trans published) ended⟩
  | sleeping crashed' wake =>
    -- Once the time has come, it is as if the task had been queued all along.
    have awake : ((s.apply (.pass wake)).apply .restart).restarts
        = some { task with stage := .queued crashed' } := by
      simp [System.apply, restart, current, stage]
    have same : ((s.apply (.pass wake)).apply .restart).work = none ∧
        ((s.apply (.pass wake)).apply .restart).core = s.core := by
      simp [System.apply, restart, current, stage, idle]
    obtain ⟨work, core⟩ := restart_of_queued awake rfl same.1
    exact ⟨[.pass wake, .restart, .restart, .proceed], by simp [Move.asks], _,
      work_proceed_checking work
        ((congrArg Core.published (core.trans same.2)).trans published) ended⟩

/-! ## A stop in progress -/

/-- Neither the restart task nor the phase that is published has changed. -/
def Undisturbed (s s' : System) : Prop :=
  s'.restarts = s.restarts ∧ s'.core.published.map Handle.phase = s.core.published.map Handle.phase

/-- **The operation in progress can come to an end**, and nothing else changes. -/
def CanEnd (s : System) : Prop :=
  ∃ moves, (∀ move ∈ moves, ¬move.asks) ∧ (s.run moves).work = none ∧
    s.Undisturbed (s.run moves)

theorem CanEnd.of_idle (idle : s.work = none) : s.CanEnd := ⟨[], by simp, idle, rfl, rfl⟩

theorem CanEnd.of_apply (move : Move) (silent : ¬move.asks) (next : s.apply move = s')
    (undisturbed : s.Undisturbed s') (canEnd : s'.CanEnd) : s.CanEnd := by
  subst next
  obtain ⟨moves, nobody, work, restarts, phase⟩ := canEnd
  exact ⟨move :: moves, by simpa [silent] using nobody, work, restarts.trans undisturbed.1,
    phase.trans undisturbed.2⟩

section Stop

variable {h : Handle} {graceful : Bool}

theorem isOver_of_published (published : s.core.published = some h) (ended : h.phase.isTerminal)
    (generation : Nat) : s.core.isOver generation := by
  simp [Core.isOver, published, ended]

theorem endTerminate_eq (published : s.core.published = some h) (ended : h.phase.isTerminal) :
    s.endTerminate graceful = s.answer (.terminated graceful (.ok h)) := by
  have shown : s.status = (some h, s) := by simp [status, published, ended]
  simp only [endTerminate, shown]

theorem canEnd_awaitingQuit {asked : Handle} {deadline : Nat}
    (current : s.work = some (.terminating graceful (.awaitingQuit asked deadline)))
    (published : s.core.published = some h) (ended : h.phase.isTerminal) : s.CanEnd := by
  have ends : s.apply .proceed = s.answer (.terminated graceful (.ok h)) := by
    simp only [System.apply, proceed, current, proceedTerminate,
      isOver_of_published published ended, if_true, endTerminate_eq published ended]
  exact .of_apply .proceed id ends ⟨rfl, rfl⟩ (.of_idle rfl)

theorem canEnd_quitting {asked : Handle}
    (current : s.work = some (.terminating graceful (.quitting asked)))
    (published : s.core.published = some h) (ended : h.phase.isTerminal) : s.CanEnd := by
  have told : s.apply .quitTold = s.enter (.terminating graceful
      (.awaitingQuit asked (s.now + s.options.quitTimeout.count.toNat))) := by
    simp only [System.apply, current]
  exact .of_apply .quitTold id told ⟨rfl, rfl⟩ (canEnd_awaitingQuit rfl published ended)

theorem canEnd_awaitingKill {asked : Handle} {deadline : Nat}
    (current : s.work = some (.terminating graceful (.awaitingKill asked deadline)))
    (published : s.core.published = some h) (ended : h.phase.isTerminal) : s.CanEnd := by
  have ends : ∃ result, s.apply .proceed = s.answer result := by
    simp only [System.apply, proceed, current, proceedTerminate,
      isOver_of_published published ended, if_true, endTerminate_eq published ended]
    cases graceful
    · exact ⟨_, rfl⟩
    · exact ⟨_, rfl⟩
  obtain ⟨result, ends⟩ := ends
  exact .of_apply .proceed id ends ⟨rfl, rfl⟩ (.of_idle rfl)

theorem canEnd_killing {asked : Handle}
    (current : s.work = some (.terminating graceful (.killing asked)))
    (published : s.core.published = some h) (ended : h.phase.isTerminal) : s.CanEnd := by
  have kills : s.apply .proceed = (s.forceKill asked.generation).enter
      (.terminating graceful (.awaitingKill asked (s.now + killGrace))) := by
    simp only [System.apply, proceed, current, proceedTerminate]
  have kept : (s.forceKill asked.generation).restarts = s.restarts ∧
      (s.forceKill asked.generation).core.published = s.core.published := by
    unfold forceKill
    simp only
    split <;> exact ⟨rfl, rfl⟩
  exact .of_apply .proceed id kills ⟨kept.1, congrArg (·.map Handle.phase) kept.2⟩
    (canEnd_awaitingKill rfl (kept.2.trans published) ended)

/-- A stop comes to an end once the latest instance has ended. -/
theorem Sound.canEnd_terminate (sound : s.Sound) {stage : TerminateStage}
    (current : s.work = some (.terminating graceful stage))
    (published : s.core.published = some h) (ended : h.phase.isTerminal) : s.CanEnd := by
  cases stage with
  | checking =>
    have shown : s.status = (some h, s) := by simp [status, published, ended]
    have notLive : (some h).filter Handle.isLive = none := by
      simp [Option.filter, Handle.isLive, ended]
    have ends : s.apply .proceed = s.answer (.terminated graceful (.error .notRunning)) := by
      simp only [System.apply, proceed, current, proceedTerminate, liveStatus, shown, notLive]
    exact .of_apply .proceed id ends ⟨rfl, rfl⟩ (.of_idle rfl)
  | requesting asked =>
    obtain ⟨h', published', advances⟩ :=
      sound.coherent.advances_transition published asked.generation .stopRequested none
    have ended' : h'.phase.isTerminal := by rw [advances.phase ended]; exact ended
    have requests : s.apply .proceed = (s.transition asked.generation .stopRequested none).enter
        (.terminating graceful (if graceful then .quitting asked else .killing asked)) := by
      simp only [System.apply, proceed, current, proceedTerminate]
    have kept : (s.transition asked.generation .stopRequested none).core.published.map Handle.phase
        = s.core.published.map Handle.phase := by
      rw [show (s.transition asked.generation .stopRequested none).core.published = some h' from
        published', published, Option.map_some, Option.map_some, advances.phase ended]
    refine .of_apply .proceed id requests ⟨rfl, kept⟩ ?_
    cases graceful
    · exact canEnd_killing rfl published' ended'
    · exact canEnd_quitting rfl published' ended'
  | quitting => exact canEnd_quitting current published ended
  | awaitingQuit => exact canEnd_awaitingQuit current published ended
  | killing => exact canEnd_killing current published ended
  | awaitingKill => exact canEnd_awaitingKill current published ended

end Stop

/-- A pending restart gets as far as starting its process, though the latest instance has
stopped. -/
theorem RestartPending.run (pending : s.RestartPending) (sound : s.Sound) {h : Handle}
    (published : s.core.published = some h) (phase : h.phase = .stopped)
    (noLaunch : ∀ order stage, s.work ≠ some (.launching order stage)) :
    ∃ moves, (∀ move ∈ moves, ¬move.asks) ∧
      ∃ order, (s.run moves).work = some (.launching order .spawning) := by
  -- First whatever stop is in progress comes to an end, then the restart follows.
  have canEnd : s.CanEnd := by
    cases current : s.work with
    | none => exact .of_idle current
    | some work =>
      cases work with
      | launching order stage => exact absurd current (noLaunch order stage)
      | terminating graceful stage =>
        exact sound.canEnd_terminate current published (by rw [phase]; rfl)
  obtain ⟨ending, silent, idle, restarts, phase'⟩ := canEnd
  rw [published, Option.map_some, phase] at phase'
  obtain ⟨h', published', stopped⟩ := Option.map_eq_some_iff.mp phase'
  have pending' : (s.run ending).RestartPending := by
    unfold RestartPending
    rw [restarts]
    exact pending
  obtain ⟨moves, nobody, order, reached⟩ := pending'.run_of_idle published' stopped idle
  refine ⟨ending ++ moves, fun move member => ?_, order, by rw [run_append, reached]⟩
  rcases List.mem_append.mp member with earlier | later
  · exact silent move earlier
  · exact nobody move later

/-- A process is started by the launch in progress. -/
theorem Sound.spawning_of_cons (sound : s.Sound) {move : Move} {c : Child}
    (grown : (s.apply move).children = c :: s.children) :
    ∃ order, s.work = some (.launching order .spawning) ∧ c.origin = order.origin := by
  rcases sound.apply_cases move with
    quiets | ⟨order, pid, program, host, deadline, current, started⟩
  · have more := congrArg List.length grown
    rw [(sound.quiets quiets).length_children, launched_quiets quiets, List.length_cons,
      sound.length_children] at more
    omega
  · rw [started] at grown
    exact ⟨order, current, by rw [← (List.cons.inj grown).1]⟩

/-- **When a restart follows a crash, and when nothing follows a stop.**

* When a process is started for the restart task, the latest instance is shown as
  crashed, unless a newer instance than the one that the task remembers was launched
  for a caller and has stopped.
* Once the latest instance has stopped and no launch is in progress, no run in which no
  caller asks for an instance starts one or gets as far as that, unless a restart was
  pending when it stopped. -/
theorem restart_exactly_when (s : System) (reachable : s.Reachable) :
    (∀ move c crashed, (s.apply move).children = c :: s.children →
      c.origin = .restart crashed →
        ((∃ h, s.status.1 = some h ∧ h.phase = .crashed) ↔ ¬s.StoppedSince crashed)) ∧
    ∀ h, s.core.published = some h → h.phase = .stopped →
      (∀ order stage, s.work ≠ some (.launching order stage)) →
        ((∀ moves, (∀ move ∈ moves, ¬move.asks) →
          (s.run moves).children.length = s.children.length ∧
            ∀ order, (s.run moves).work ≠ some (.launching order .spawning)) ↔
          ¬s.RestartPending) := by
  refine ⟨?_, ?_⟩
  · intro move c crashed grown origin
    obtain ⟨order, current, same⟩ := reachable.sound.spawning_of_cons grown
    exact reachable.shown_crashed_iff current (same.symm.trans origin)
  · intro h published phase noLaunch
    constructor
    · intro nothing pending
      obtain ⟨moves, nobody, order, reached⟩ :=
        pending.run reachable.sound published phase noLaunch
      exact (nothing moves nobody).2 order reached
    · intro notPending moves nobody
      have rest : s.AtRest := ⟨⟨h, published, phase⟩, noLaunch, notPending⟩
      obtain ⟨after, launched⟩ := rest.run reachable.sound moves nobody
      refine ⟨?_, fun order => after.work order _⟩
      rw [(reachable.run moves).sound.length_children, reachable.sound.length_children, launched]

/-! ## A restart after a stop -/

/-- The first instance has crashed, and while the restart task sleeps a second one is
launched and stopped. -/
def secondStopped : System :=
  (start bareOptions bareHost 0).run <|
    .enableRestarts 3 2000 :: .launch bareCommand {} :: launchCourse 1 1000
      ++ [.exit 1 (.ofCode 1), .watch 1, .watch 1, .restart]
      ++ .launch bareCommand {} :: launchCourse 2 1001 ++ stopCourse 2

/-- The restart task wakes up. -/
def awakened : System := secondStopped.run [.pass 2000, .restart, .restart, .proceed]

theorem reachable_secondStopped : secondStopped.Reachable := (reachable_start _ _ _).run _

theorem reachable_awakened : awakened.Reachable := reachable_secondStopped.run _

/-- The third process, which the restart task starts. -/
def third : Child := { generation := 3, pid := 1002, origin := .restart 1, program := .standIn }

theorem children_awakened :
    (awakened.apply (.spawn 1002)).children = third :: awakened.children := rfl

theorem pending_secondStopped : secondStopped.RestartPending := by
  have remembered : (secondStopped.restarts.bind fun task => task.stage.crashed?).isSome := by
    decide
  obtain ⟨h, found⟩ := Option.isSome_iff_exists.mp remembered
  obtain ⟨task, current, crashed⟩ := Option.bind_eq_some_iff.mp found
  exact ⟨task, h, current, crashed⟩

/-- The second instance has stopped since the first has crashed, and its stop is no
rest. -/
theorem second_stopped_since_first :
    awakened.StoppedSince 1 ∧
    ¬∀ moves, (∀ move ∈ moves, ¬move.asks) →
      (secondStopped.run moves).children.length = secondStopped.children.length ∧
        ∀ order, (secondStopped.run moves).work ≠ some (.launching order .spawning) := by
  constructor
  · by_contra notStopped
    obtain ⟨h, shown, crashed⟩ := ((restart_exactly_when awakened reachable_awakened).1
      (.spawn 1002) third 1 children_awakened rfl).mpr notStopped
    have stopped : awakened.status.1.map Handle.phase = some .stopped := by decide
    rw [shown] at stopped
    simp [crashed] at stopped
  · intro nothing
    have stopped : secondStopped.core.published.map Handle.phase = some .stopped := by decide
    obtain ⟨h, published, phase⟩ := Option.map_eq_some_iff.mp stopped
    have idle : secondStopped.work = none := by decide
    exact ((restart_exactly_when secondStopped reachable_secondStopped).2 h published phase
      (by simp [idle])).mp nothing pending_secondStopped

/-- **A restart need not follow a crash**: the latest instance may have been stopped. -/
theorem restart_not_only_of_crashed :
    ¬∀ s : System, s.Reachable → ∀ move c crashed,
      (s.apply move).children = c :: s.children → c.origin = .restart crashed →
        ∃ h, s.status.1 = some h ∧ h.phase = .crashed := by
  intro followsCrash
  obtain ⟨h, shown, crashed⟩ :=
    followsCrash awakened reachable_awakened (.spawn 1002) third 1 children_awakened rfl
  have stopped : awakened.status.1.map Handle.phase = some .stopped := by decide
  rw [shown] at stopped
  simp [crashed] at stopped

end System

end GuestSupervisor.Supervisor
