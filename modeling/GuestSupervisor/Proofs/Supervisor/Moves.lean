import GuestSupervisor.Proofs.Supervisor.Sound

/-!
# Moves are changes

Takes every move apart into changes, following the stages of the operation that it
carries on.  With it, whatever every change keeps holds after every run.

## Main Definitions

* `Move.asks` — a caller asks for an instance.
* `Move.demands` — what a caller asks for by a move.
* `System.Reachable` — some run of moves leads to a system.

## Main Statements

* `System.Sound.apply_cases` — a move of a sound system is a sequence of quiet changes,
  or it starts a process.
* `System.Reachable.induction` — what holds at the start and is kept by every
  change holds of every reachable system.
-/

namespace GuestSupervisor.Supervisor

open Instance Monitor

/-- Whether a caller asks for an instance. -/
def Move.asks : Move → Prop
  | .launch _ _ | .relaunch _ => True
  | _ => False

/-- What a caller asks for by a move. -/
def Move.demands : Move → Demand → Prop
  | .launch command configuration, .launch order => order = ⟨command, configuration, 0, .caller⟩
  | .relaunch previous, .launch order =>
    order = ⟨previous.command, previous.configuration, previous.restarts + 1, .caller⟩
  | .enableRestarts maxRestarts _, .enable limit => limit = maxRestarts
  | .disableRestarts, .disable => True
  | _, _ => False

/-- Who asks for no instance demands no launch. -/
theorem Move.not_demands_launch {move : Move} (silent : ¬move.asks) (order : LaunchOrder) :
    ¬move.demands (.launch order) := by
  cases move with
  | launch | relaunch => exact absurd trivial silent
  | _ => exact id

namespace System

variable {asked : Demand → Prop} {s s' : System} {generation : Nat}

/-! ## Looking at the instance -/

/-- **What looking at the instance finds.**  Its handle is shown as published; or its
process is gone, and then the end is recorded if nobody else will, and only shown
otherwise. -/
theorem status_cases (s : System) :
    (s.core.published = none ∧ s.status = (none, s)) ∨
    ∃ h, s.core.published = some h ∧
      ((h.phase.isTerminal ∨ s.isGone h.generation = false) ∧ s.status = (some h, s) ∨
        h.phase.isTerminal = false ∧ s.isGone h.generation ∧
          (s.watcherLost h.generation ∧
            s.status = ((s.transition h.generation (.exited false) none).core.published,
              s.transition h.generation (.exited false) none) ∨
          s.watcherLost h.generation = false ∧
            s.status
              = (some { h with phase := if h.phase = .stopping then .stopped else .crashed },
                s))) := by
  unfold status
  cases published : s.core.published with
  | none => exact Or.inl ⟨rfl, rfl⟩
  | some h =>
    refine Or.inr ⟨h, rfl, ?_⟩
    by_cases terminal : h.phase.isTerminal
    · simp [terminal]
    · cases gone : s.isGone h.generation with
      | false => simp [terminal, gone]
      | true => cases lost : s.watcherLost h.generation <;> simp [terminal, gone, lost]

theorem quiets_status (s : System) : Quiets asked s s.status.2 := by
  rcases s.status_cases with ⟨-, same⟩ | ⟨h, -, ⟨-, same⟩ | ⟨-, gone, ⟨-, recorded⟩ | ⟨-, same⟩⟩⟩
  · rw [same]
  · rw [same]
  · rw [recorded]
    exact .single (.event _ _ _ (.ended false none gone))
  · rw [same]

/-- When no live instance is shown, the latest process is gone. -/
theorem Sound.isGone_of_not_live (sound : s.Sound) (notLive : s.liveStatus.1 = none) :
    s.status.2.isGone s.status.2.core.launched := by
  have filtered : s.status.1.filter Handle.isLive = none := notLive
  rcases s.status_cases with
      ⟨published, same⟩ | ⟨h, published, ⟨-, same⟩ | ⟨-, gone, ⟨-, recorded⟩ | ⟨-, same⟩⟩⟩
  · -- Nothing was ever launched.
    rw [same]
    have none : s.core.launched = 0 := by
      have isSome := sound.coherent.isSome
      simp only [published, Option.isSome_none, Bool.false_eq_true, false_iff] at isSome
      omega
    have empty : s.children = [] := by
      have numbered := sound.numbered
      simpa [none] using numbered
    simp [isGone, child?, empty]
  · rw [same] at filtered ⊢
    refine sound.ended h published ?_
    simpa [Handle.isLive] using filtered
  · have generation := sound.coherent.published h published
    rw [recorded]
    simp only [System.transition, Core.launched_transition]
    rw [← generation]
    exact gone
  · rw [same, ← sound.coherent.published h published]
    exact gone

theorem liveStatus_eq (s : System) :
    s.liveStatus = (s.status.1.filter Handle.isLive, s.status.2) := rfl

/-- Looking at the instance changes only the machine and what is published. -/
theorem exists_core_status (s : System) : ∃ core, s.status.2 = { s with core } := by
  rcases s.status_cases with ⟨-, same⟩ | ⟨h, -, ⟨-, same⟩ | ⟨-, -, ⟨-, same⟩ | ⟨-, same⟩⟩⟩
  all_goals
    rw [same]
    exact ⟨_, rfl⟩

@[simp] theorem work_status (s : System) : s.status.2.work = s.work := by
  obtain ⟨core, same⟩ := s.exists_core_status
  rw [same]

/-- The instance that is shown is the latest. -/
theorem Sound.generation_of_status (sound : s.Sound) {h : Handle} (shown : s.status.1 = some h) :
    h.generation = s.core.launched := by
  rcases s.status_cases with ⟨-, same⟩ | ⟨h', published, ⟨-, same⟩ | ⟨-, -, ⟨-, same⟩ | ⟨-, same⟩⟩⟩
  · rw [same] at shown
    cases shown
  · rw [same] at shown
    cases shown
    exact sound.coherent.published h published
  · rw [same] at shown
    rw [sound.coherent.transition.published h shown, Core.launched_transition]
  · rw [same] at shown
    cases shown
    exact sound.coherent.published h' published

/-! ## Launching -/

theorem Sound.quiets_checking (sound : s.Sound) {order : LaunchOrder}
    (current : s.work = some (.launching order .checking)) :
    Quiets asked s (s.proceedLaunch order .checking) := by
  refine s.quiets_status.trans ?_
  simp only [proceedLaunch, liveStatus_eq]
  cases live : s.status.1.filter Handle.isLive with
  | some h => exact .single (.launchEnded _ .checking _ (by simp [current]) rfl)
  | none =>
    exact .single (.entered _ _ ((work_status s).trans current) (.launching order rfl)
      (sound.isGone_of_not_live live))

/-- A launch that is about to start its process does so or fails. -/
theorem spawnFor_cases {order : LaunchOrder} (pid : UInt32)
    (current : s.work = some (.launching order .spawning)) :
    Quiets asked s (s.spawnFor order pid) ∨
      ∃ program host deadline,
        s.spawnFor order pid = s.started order pid program host deadline := by
  unfold spawnFor
  simp only
  split
  · rename_i failure host _
    refine Or.inl (.head (.outside { s with host } rfl rfl rfl rfl rfl) ?_)
    exact .single (.launchEnded _ .spawning _ current rfl)
  · rename_i program host _
    exact Or.inr ⟨program, host, _, rfl⟩

/-- The signal that kills does not end a process by itself. -/
theorem quiet_signal (s : System) (generation : Nat) : Quiet asked s (s.signal generation) :=
  .child _ _ fun _ _ _ => .of_eq rfl rfl rfl rfl

/-- Waiting for the end of the latest process when it has ended lets it advance. -/
theorem quiet_reap (s : System) : Quiet asked s (s.updateChild s.core.launched Child.reap) :=
  .child _ _ fun c _ _ => c.advances_reap

/-- After the end of the latest process was waited for, it is gone. -/
theorem Sound.isGone_reap (sound : s.Sound) {exit : ExitInfo}
    (ended : (s.child? generation).map Child.life = some (.ended exit)) :
    (s.updateChild generation Child.reap).isGone generation := by
  obtain ⟨c, found, life⟩ := Option.map_eq_some_iff.mp ended
  unfold isGone
  rw [child?_updateChild Child.reap fun _ _ _ => rfl, found]
  have same := (sound.child?_eq_some_iff.mp found).2
  simp [same, Child.reap, life, Life.reap, Life.isReaped]

/-- The launch goes on to a stage that needs nothing new. -/
theorem quiets_enter {order : LaunchOrder} {stage next : LaunchStage}
    (current : s.work = some (.launching order stage)) (same : stage.hasProcess = next.hasProcess)
    (fits : s.Fits (.launching order next)) : Quiets asked s (s.enter (.launching order next)) :=
  .single (.entered _ _ current (.launching order same) fits)

/-- A launch that finds its process ended waits for it and goes on to record the
end. -/
theorem Sound.quiets_reap_enter (sound : s.Sound) {order : LaunchOrder} {stage next : LaunchStage}
    {exit : ExitInfo} (current : s.work = some (.launching order stage))
    (same : stage.hasProcess = next.hasProcess) (startingUp : s.IsStartingUp)
    (ended : (s.child? s.core.launched).map Child.life = some (.ended exit))
    (needs : ∀ s' : System, s'.IsStartingUp ∧ s'.isGone s'.core.launched →
      s'.Fits (.launching order next)) :
    Quiets asked s ((s.updateChild s.core.launched Child.reap).enter (.launching order next)) :=
  .head (quiet_reap s) (quiets_enter current same
    (needs _ ⟨startingUp, sound.isGone_reap ended⟩))

theorem Sound.quiets_proceedLaunch (sound : s.Sound) {order : LaunchOrder} {stage : LaunchStage}
    (current : s.work = some (.launching order stage)) :
    Quiets asked s (s.proceedLaunch order stage) := by
  have fits := sound.fits _ current
  cases stage with
  | checking => exact sound.quiets_checking current
  | spawning | probing => exact .refl
  | polling deadline =>
    simp only [proceedLaunch]
    split
    · exact sound.quiets_reap_enter current rfl fits ‹_› fun _ both => both
    · exact quiets_enter current rfl fits
  | judging deadline =>
    simp only [proceedLaunch]
    split
    · exact .head (quiet_signal s _) (quiets_enter current rfl fits)
    · exact quiets_enter current rfl fits
  | resting deadline wake =>
    simp only [proceedLaunch]
    split
    · exact quiets_enter current rfl fits
    · exact .refl
  | burying exit =>
    refine .head (.event s.core.launched (.exited exit.success) (some exit)
      (.ended _ _ fits.2)) ?_
    exact .single (.launchEnded _ (.burying exit) _ current rfl)
  | culling =>
    simp only [proceedLaunch]
    split
    · exact sound.quiets_reap_enter current rfl fits ‹_› fun _ both => both
    · exact .refl
  | aborting exit =>
    refine .head (.event s.core.launched .launchAborted (some exit)
      (.aborted exit rfl fits.1 fits.2)) ?_
    exact .single (.launchEnded _ (.aborting exit) _ current rfl)
  | marking =>
    -- The stage is entered first: the event that makes the instance ready is only good for
    -- a launch that has nothing more to wait for.
    refine .head (.entered _ (.launching order .watching) current (.launching order rfl) trivial) ?_
    exact .single (.event _ _ _ (.ready order rfl rfl))
  | watching =>
    refine .head (.child s.core.launched (fun c => { c with watcher := .waiting })
      fun _ _ _ => ⟨rfl, rfl, id, by simp [Watcher.hasSeen]⟩) ?_
    exact quiets_enter current rfl trivial
  | attaching =>
    refine .head (.attached s.core.launched) ?_
    exact quiets_enter current rfl trivial
  | returning =>
    -- The answer is given in the system as it is after the look at the instance.
    refine s.quiets_status.trans ?_
    simp only [proceedLaunch]
    cases shown : s.status with
    | mk latest after =>
      have work : after.work = some (.launching order .returning) := by
        rw [← current, ← work_status s, shown]
      cases latest with
      | none => exact .refl
      | some h => exact .single (.launchEnded _ .returning _ work rfl)

/-! ## Stopping -/

theorem quiets_forceKill (s : System) (generation : Nat) :
    Quiets asked s (s.forceKill generation) := by
  unfold forceKill
  simp only
  refine .head (.switched generation) ?_
  split
  · exact .single (.child _ _ fun _ _ _ => .of_eq rfl rfl rfl rfl)
  · exact .single (quiet_signal _ _)

theorem quiets_endTerminate {graceful : Bool} {stage : TerminateStage}
    (current : s.work = some (.terminating graceful stage)) :
    Quiets asked s (s.endTerminate graceful) := by
  refine s.quiets_status.trans ?_
  unfold endTerminate
  cases shown : s.status with
  | mk latest after =>
    have work : after.work = some (.terminating graceful stage) := by
      rw [← current, ← work_status s, shown]
    cases latest with
    | none => exact .refl
    | some h => exact .single (.terminateEnded graceful stage _ work)

/-- The stop goes on to another stage. -/
theorem quiet_enter_terminating {graceful : Bool} {stage next : TerminateStage}
    (current : s.work = some (.terminating graceful stage)) :
    Quiet asked s (s.enter (.terminating graceful next)) :=
  .entered _ _ current (.terminating graceful stage next) trivial

@[simp] theorem work_forceKill (s : System) (generation : Nat) :
    (s.forceKill generation).work = s.work := by
  unfold forceKill
  simp only
  split <;> rfl

theorem quiets_proceedTerminate {graceful : Bool} {stage : TerminateStage}
    (current : s.work = some (.terminating graceful stage)) :
    Quiets asked s (s.proceedTerminate graceful stage) := by
  cases stage with
  | checking =>
    refine s.quiets_status.trans ?_
    have work := (work_status s).trans current
    simp only [proceedTerminate, liveStatus_eq]
    cases s.status.1.filter Handle.isLive with
    | some h => exact .single (quiet_enter_terminating work)
    | none => exact .single (.terminateEnded graceful .checking _ work)
  | requesting h =>
    refine .head (.event h.generation .stopRequested none .asked) ?_
    exact .single (quiet_enter_terminating current)
  | quitting h => exact .refl
  | awaitingQuit h deadline =>
    simp only [proceedTerminate]
    split
    · exact quiets_endTerminate current
    · split
      · exact .single (quiet_enter_terminating current)
      · exact .refl
  | killing h =>
    refine (quiets_forceKill s h.generation).trans ?_
    exact .single (quiet_enter_terminating ((work_forceKill s _).trans current))
  | awaitingKill h deadline =>
    simp only [proceedTerminate]
    split
    · split
      · exact .single (.terminateEnded graceful _ _ current)
      · exact quiets_endTerminate current
    · split
      · exact .single (.terminateEnded graceful _ _ current)
      · exact .refl

/-! ## Everybody else -/

theorem quiets_begin_launch {order : LaunchOrder} (caller : order.origin = .caller)
    (demand : asked (.launch order)) : Quiets asked s (s.begin (.launching order .checking)) := by
  unfold begin
  cases idle : s.work with
  | none => exact .single (.launchBegun order idle caller demand)
  | some current => exact .refl

theorem quiets_begin_terminate (s : System) (graceful : Bool) :
    Quiets asked s (s.begin (.terminating graceful .checking)) := by
  unfold begin
  cases idle : s.work with
  | none => exact .single (.terminateBegun graceful idle)
  | some current => exact .refl

theorem Sound.quiets_watch (sound : s.Sound) (generation : Nat) :
    Quiets asked s (s.watch generation) := by
  unfold watch
  cases found : s.child? generation with
  | none => exact .refl
  | some c =>
    obtain ⟨member, number⟩ := sound.child?_eq_some_iff.mp found
    -- A number belongs to one process, so what is known of `c` is known of every process
    -- that the change reaches.
    have only : ∀ d ∈ s.children, d.generation = generation → d = c := fun d memD same =>
      sound.eq_of_generation_eq memD member (same.trans number.symm)
    have seesEnd : ∀ exit, c.life = .ended exit →
        Quiets asked s (s.updateChild generation
          fun c => { c.reap with watcher := .holding exit }) := by
      intro exit life
      refine .single (.child _ _ fun d memD same => ?_)
      obtain rfl := only d memD same
      refine ⟨rfl, rfl, d.advances_reap.reaped, fun _ _ => ?_⟩
      simp [Child.reap, life, Life.reap, Life.isReaped]
    have kills : Quiets asked s ((s.signal generation).updateChild generation
        fun c => { c with watcher := .killing }) :=
      .head (quiet_signal s _) (.single (.child _ _ fun _ _ _ =>
        ⟨rfl, rfl, id, by simp [Watcher.hasSeen]⟩))
    simp only
    split
    · exact seesEnd _ ‹_›
    · exact seesEnd _ ‹_›
    · split
      · exact kills
      · exact .refl
    · rename_i exit watcher
      have reaped : c.life.isReaped := sound.seen c member (by rw [watcher]; rfl)
      have gone : s.isGone generation := by simpa [isGone, found] using reaped
      refine .head (.event _ _ _ (.ended _ _ gone)) (.single (.child _ _ fun d memD same => ?_))
      obtain rfl := only d memD same
      exact ⟨rfl, rfl, id, fun _ _ => reaped⟩
    · exact .refl

theorem quiets_restart (s : System) : Quiets asked s s.restart := by
  unfold restart
  cases current : s.restarts with
  | none => exact .refl
  | some task =>
    cases stage : task.stage with
    | idle =>
      simp only [stage]
      split
      · exact .refl
      · exact .single (.observed task current stage)
    | sleeping crashed wake =>
      simp only [stage]
      split
      · exact .single (.woken task crashed wake current stage ‹_›)
      · exact .refl
    | queued crashed =>
      simp only [stage]
      cases idle : s.work with
      | some work => exact .refl
      | none => exact .single (.relaunched task crashed current stage idle)
    | relaunching =>
      simp only [stage]
      exact .refl

theorem quiets_beginDispatch (s : System) (expected : Option Nat) (command : ControlCommand) :
    Quiets asked s (s.beginDispatch expected command) := by
  refine .head (.outside { s with dispatched := s.dispatched + 1 } rfl rfl rfl rfl rfl) ?_
  refine (quiets_status _).trans ?_
  unfold beginDispatch
  simp only
  split
  · exact .single (.dispatched _ _)
  · exact .single (.dispatched _ _)
  · exact .single (.outside _ rfl rfl rfl rfl rfl)

/-- A command that goes on leaves everything else alone. -/
theorem quiet_advance (s : System) (id : Nat) (stage : DispatchStage) :
    Quiet asked s (s.advance id stage) :=
  .outside _ rfl rfl rfl rfl rfl

theorem quiets_execute (s : System) (id : Nat) : Quiets asked s (s.execute id) := by
  unfold execute
  split
  · rename_i d _
    split
    · rename_i peer _
      split
      · refine .head (.child peer (fun c => { c with paused := pausing d.command c.paused })
          fun _ _ _ => .of_eq rfl rfl rfl rfl) ?_
        exact .single (quiet_advance _ _ _)
      · exact .refl
    · exact .refl
  · exact .refl

theorem quiets_acknowledge (s : System) (id : Nat) : Quiets asked s (s.acknowledge id) := by
  unfold acknowledge
  split
  · split
    · split
      · exact .head (.event _ _ _ (.answered _ _ ‹_›)) (.single (.dispatched _ _))
      · exact .single (.dispatched _ _)
    · exact .refl
  · exact .refl

theorem quiets_listen (s : System) (generation : Nat) (endpoint : String) :
    Quiets asked s (s.listen generation endpoint) := by
  unfold listen
  split
  · simp only
    split
    · exact .single (.outside _ rfl rfl rfl rfl rfl)
    · rename_i files _
      refine .head (.outside { s with host := { s.host with files } } rfl rfl rfl rfl rfl) ?_
      exact .single (.child _ _ fun _ _ _ => .of_eq rfl rfl rfl rfl)
  · exact .refl

/-! ## Moves -/

/-- What becomes of the move that starts a process. -/
theorem apply_spawn_cases (s : System) (pid : UInt32) :
    Quiets (Move.spawn pid).demands s (s.apply (.spawn pid)) ∨
      ∃ order program host deadline, s.work = some (.launching order .spawning) ∧
        s.apply (.spawn pid) = s.started order pid program host deadline := by
  simp only [System.apply]
  split
  · rename_i order current
    rcases spawnFor_cases pid current with quiets | ⟨program, host, deadline, started⟩
    · exact Or.inl quiets
    · exact Or.inr ⟨order, program, host, deadline, current, started⟩
  · exact Or.inl .refl

/-- Every other move of a sound system is a sequence of quiet changes. -/
theorem Sound.quiets_apply (sound : s.Sound) (move : Move) (notSpawn : ∀ pid, move ≠ .spawn pid) :
    Quiets move.demands s (s.apply move) := by
  cases move with
  | pass milliseconds => exact .single (.outside _ rfl rfl rfl rfl rfl)
  | host host => exact .single (.outside _ rfl rfl rfl rfl rfl)
  | status => exact s.quiets_status
  | launch | relaunch => exact quiets_begin_launch rfl rfl
  | terminate graceful => exact s.quiets_begin_terminate graceful
  | dispatch expected command => exact quiets_beginDispatch s expected command
  | spawn pid => exact absurd rfl (notSpawn pid)
  | probed accepted =>
    simp only [System.apply]
    split
    · rename_i order deadline current
      have fits := sound.fits _ current
      cases accepted <;> exact quiets_enter current rfl fits
    · exact .refl
  | quitTold =>
    simp only [System.apply]
    split
    · exact .single (quiet_enter_terminating ‹_›)
    · exact .refl
  | proceed =>
    simp only [System.apply, proceed]
    split
    · exact .refl
    · exact sound.quiets_proceedLaunch ‹_›
    · exact quiets_proceedTerminate ‹_›
  | watch generation => exact sound.quiets_watch generation
  | enableRestarts maxRestarts backoff =>
    simp only [System.apply, enableRestarts]
    split
    · exact .refl
    · split
      · exact .refl
      · rename_i absent quiet
        exact .single (.enabled _ _ absent (by simpa using quiet) rfl)
  | disableRestarts => exact .single (.disabled trivial)
  | restart => exact s.quiets_restart
  | listen generation endpoint => exact s.quiets_listen generation endpoint
  | exit generation exit => exact .single (.child _ _ fun c _ _ => c.advances_finish exit)
  | connect id =>
    simp only [System.apply, connect]
    split
    · split
      · exact .single (quiet_advance _ _ _)
      · exact .refl
    · exact .refl
  | execute id => exact s.quiets_execute id
  | reply id text =>
    simp only [System.apply, reply]
    split
    · exact .single (quiet_advance _ _ _)
    · exact .refl
  | fail id error =>
    simp only [System.apply, fail]
    split
    · exact .refl
    · exact .refl
    · exact .single (.dispatched _ _)
  | acknowledge id => exact s.quiets_acknowledge id

/-- **A move of a sound system is a sequence of quiet changes, or it starts a process.** -/
theorem Sound.apply_cases (sound : s.Sound) (move : Move) :
    Quiets move.demands s (s.apply move) ∨
      ∃ order pid program host deadline, s.work = some (.launching order .spawning) ∧
        s.apply move = s.started order pid program host deadline := by
  by_cases spawns : ∃ pid, move = .spawn pid
  · obtain ⟨pid, rfl⟩ := spawns
    rcases s.apply_spawn_cases pid with quiets | ⟨order, program, host, deadline, current, started⟩
    · exact Or.inl quiets
    · exact Or.inr ⟨order, pid, program, host, deadline, current, started⟩
  · exact Or.inl (sound.quiets_apply move fun pid same => spawns ⟨pid, same⟩)

/-- A move of a sound system is a sequence of changes. -/
theorem Sound.changes_apply (sound : s.Sound) (move : Move) : Changes s (s.apply move) := by
  rcases sound.apply_cases move with
    quiets | ⟨order, pid, program, host, deadline, current, started⟩
  · exact changes_of_quiets quiets
  · rw [started]
    exact .single (.started order pid program host deadline current)

theorem Sound.changes_run (sound : s.Sound) (moves : List Move) : Changes s (s.run moves) := by
  induction moves generalizing s with
  | nil => exact .refl
  | cons move moves ih =>
    rw [run_cons]
    exact (sound.changes_apply move).trans (ih (sound.changes (sound.changes_apply move)))

/-- Some run of moves leads to the system. -/
def Reachable (s : System) : Prop :=
  ∃ options host now moves, s = (start options host now).run moves

/-- **What holds at the start and is kept by every change of a sound system holds of
every reachable one.** -/
theorem Reachable.induction {holds : System → Prop} (reachable : s.Reachable)
    (initial : ∀ options host now, holds (start options host now))
    (kept : ∀ {a b : System}, a.Sound → holds a → Change a b → holds b) : holds s := by
  obtain ⟨options, host, now, moves, rfl⟩ := reachable
  have changes := (sound_start options host now).changes_run moves
  generalize (start options host now).run moves = s at changes
  -- Soundness goes along, for the step may use it.
  suffices both : s.Sound ∧ holds s from both.2
  induction changes with
  | refl => exact ⟨sound_start options host now, initial options host now⟩
  | tail _ last ih => exact ⟨ih.1.change last, kept ih.1 ih.2 last⟩

/-- **What is kept by the changes that some moves may make holds after every run of such
moves.** -/
theorem Sound.run_induction {motive : System → Prop} (sound : s.Sound) (initial : motive s)
    (moves : List Move)
    (quiet : ∀ move ∈ moves, ∀ {a b : System}, a.Sound → motive a → Quiet move.demands a b →
      motive b)
    (started : ∀ {a : System} (order : LaunchOrder) (pid : UInt32) (program : Program)
      (host : Host) (deadline : Nat), a.Sound → motive a →
      a.work = some (.launching order .spawning) →
      motive (a.started order pid program host deadline)) :
    motive (s.run moves) := by
  induction moves generalizing s with
  | nil => exact initial
  | cons move moves ih =>
    have kept : ∀ {b : System}, Quiets move.demands s b → motive b := by
      intro b quiets
      induction quiets with
      | refl => exact initial
      | tail earlier last held =>
        exact quiet move List.mem_cons_self (sound.quiets earlier) held last
    have next : motive (s.apply move) := by
      rcases sound.apply_cases move with
        quiets | ⟨order, pid, program, host, deadline, current, equation⟩
      · exact kept quiets
      · rw [equation]
        exact started order pid program host deadline sound initial current
    exact ih (sound.changes (sound.changes_apply move)) next
      fun m member => quiet m (List.mem_cons_of_mem _ member)

theorem Reachable.sound (reachable : s.Reachable) : s.Sound :=
  reachable.induction sound_start fun sound _ change => sound.change change

theorem reachable_start (options : SupervisorOptions) (host : Host) (now : Nat) :
    (start options host now).Reachable := ⟨options, host, now, [], rfl⟩

theorem Reachable.run (reachable : s.Reachable) (moves : List Move) : (s.run moves).Reachable := by
  obtain ⟨options, host, now, before, rfl⟩ := reachable
  exact ⟨options, host, now, before ++ moves, by rw [run_append]⟩

/-- **What holds at the start and is kept by every move holds of every reachable system.**
This is for facts that are not kept between the changes that make up one move. -/
theorem Reachable.move_induction {holds : System → Prop} (reachable : s.Reachable)
    (initial : ∀ options host now, holds (start options host now))
    (kept : ∀ {a : System}, a.Reachable → holds a → ∀ move, holds (a.apply move)) : holds s := by
  obtain ⟨options, host, now, moves, rfl⟩ := reachable
  have reached := reachable_start options host now
  have begun := initial options host now
  generalize start options host now = s at reached begun
  induction moves generalizing s with
  | nil => exact begun
  | cons move moves ih => exact ih _ (reached.run [move]) (kept reached begun move)

/-! ## Undisturbed operations -/

/-- A host with nothing on it but the stand-in. -/
def bareHost : Host := ⟨⟨[], [], []⟩, [("emulator", .standIn)], [], []⟩

/-- Usual limits, with the monitor in the working directory. -/
def bareOptions : SupervisorOptions := ⟨⟨5000⟩, ⟨3000⟩, ⟨2000⟩, "monitor.sock"⟩

/-- A command that opens the monitor. -/
def bareCommand : EmulatorCommand :=
  ⟨"emulator", ["-monitor", "unix:monitor.sock,server,nowait"], .cdrom, [], "monitor.sock"⟩

/-- What happens from the check of a launch to its answer when its process opens the
monitor at once. -/
def launchCourse (generation : Nat) (pid : UInt32) : List Move :=
  [.proceed, .spawn pid, .proceed, .listen generation "monitor.sock", .probed true, .proceed,
    .proceed, .proceed, .proceed]

/-- A stop whose process ends as soon as it is told to. -/
def stopCourse (generation : Nat) : List Move :=
  [.terminate true, .proceed, .proceed, .quitTold, .exit generation (.ofCode 0),
    .watch generation, .watch generation, .proceed]

end System

end GuestSupervisor.Supervisor
