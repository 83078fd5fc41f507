import GuestSupervisor.Proofs.Supervisor.Delivery

/-!
# The guest's clock

A process halts its guest and lets it go on when a command tells it to, and the supervisor
shows a phase that says whether the guest stands still.  Nothing but commands touches the
one or the other: every other move leaves all guests as they are, and moves the phase on only
to one that says the same, or nothing.

## Main Definitions

* `Phase.standsStill?` — what a phase says about the guest.
* `System.isPaused` — whether the guest of an instance stands still.
* `System.ShowsClock` — what is shown of the guest is so.
* `System.Steady` — nothing is done to the guests, and nothing else is said of them.

## Main Statements

* `System.Sound.steady_apply` — what a move that is no command does to the guests.
* `System.Sound.showsClock_run` — moves other than commands keep what is shown true.
-/

namespace GuestSupervisor.Instance.Phase

/-- **What a phase says about the guest**: whether it stands still. -/
def standsStill? : Phase → Option Bool
  | starting | running => some false
  | paused => some true
  | stopping | stopped | crashed => none

/-- Only an answered command makes a phase say something else. -/
theorem standsStill?_step {event : Event} (own : isAcknowledgement event = false) (phase : Phase) :
    (phase.step event).standsStill? = none ∨
      (phase.step event).standsStill? = phase.standsStill? := by
  cases event with
  | pauseAcknowledged | resumeAcknowledged => cases own
  | exited success => cases success <;> cases phase <;> simp [step, liveStep, standsStill?]
  | endpointReady | launchAborted | stopRequested =>
    cases phase <;> simp [step, liveStep, standsStill?]

end GuestSupervisor.Instance.Phase

namespace GuestSupervisor.Supervisor

open Instance Monitor

namespace System

variable {s s' s'' : System} {generation : Nat}

/-! ## Guests -/

/-- **Whether the guest of an instance stands still**, as its process has it. -/
def isPaused (s : System) (generation : Nat) : Bool := (s.child? generation).any (·.paused)

/-- The processes with what they make of their guests. -/
def clocks (s : System) : List (Nat × Bool) := s.children.map fun c => (c.generation, c.paused)

theorem isPaused_eq_clocks (s : System) (generation : Nat) :
    s.isPaused generation = (s.clocks.find? (·.1 == generation)).any (·.2) := by
  simp only [isPaused, clocks, child?, List.find?_map, Option.any_map]
  rfl

theorem clocks_updateChild (change : Child → Child)
    (keeps : ∀ c, (change c).generation = c.generation ∧ (change c).paused = c.paused) :
    (s.updateChild generation change).clocks = s.clocks := by
  unfold clocks updateChild
  rw [List.map_map]
  refine List.map_congr_left fun c _ => ?_
  by_cases same : c.generation = generation
  · simp [same, (keeps c).1, (keeps c).2]
  · simp [same]

/-- **What is shown of the guest is so**: when the published phase says whether it stands
still, it does or does not. -/
def ShowsClock (s : System) : Prop :=
  ∀ h, s.core.published = some h → ∀ still, h.phase.standsStill? = some still →
    s.isPaused h.generation = still

theorem showsClock_start (options : SupervisorOptions) (host : Host) (now : Nat) :
    (start options host now).ShowsClock := by
  intro h published
  cases published

/-! ## What is steady -/

/-- **Nothing is done to the guests, and nothing else is said of them**: what is published says
what was said before about the same instance, or it says nothing. -/
structure Steady (s s' : System) : Prop where
  clocks : s'.clocks = s.clocks
  said : ∀ h', s'.core.published = some h' → h'.phase.standsStill? = none ∨
    ∃ h, s.core.published = some h ∧ h.generation = h'.generation ∧
      h'.phase.standsStill? = h.phase.standsStill?

namespace Steady

theorem of_eq (clocks : s'.clocks = s.clocks) (published : s'.core.published = s.core.published) :
    s.Steady s' where
  clocks := clocks
  said := fun h' shown => Or.inr ⟨h', published ▸ shown, rfl, rfl⟩

theorem refl (s : System) : s.Steady s := .of_eq rfl rfl

theorem trans (first : s.Steady s') (second : s'.Steady s'') : s.Steady s'' where
  clocks := second.clocks.trans first.clocks
  said := by
    intro h'' shown
    rcases second.said h'' shown with nothing | ⟨h', shown', same, again⟩
    · exact Or.inl nothing
    · rcases first.said h' shown' with nothing | ⟨h, shown, same', before⟩
      · exact Or.inl (again.trans nothing)
      · exact Or.inr ⟨h, shown, same'.trans same, again.trans before⟩

/-- **What is shown stays so.** -/
theorem showsClock (steady : s.Steady s') (honest : s.ShowsClock) : s'.ShowsClock := by
  intro h' shown still claimed
  rcases steady.said h' shown with nothing | ⟨h, published, same, before⟩
  · rw [nothing] at claimed
    cases claimed
  · rw [isPaused_eq_clocks, steady.clocks, ← isPaused_eq_clocks, ← same]
    exact honest h published still (before.symm.trans claimed)

end Steady

theorem Sound.steady_transition (sound : s.Sound) {event : Event} {exit : Option ExitInfo}
    (own : Phase.isAcknowledgement event = false) (generation : Nat) :
    s.Steady (s.transition generation event exit) := by
  rcases sound.coherent.transition_cases generation event exit with
    unchanged | ⟨-, h, published, changed⟩
  · exact .of_eq rfl (by rw [System.transition, unchanged])
  · refine ⟨rfl, fun h' shown => ?_⟩
    obtain rfl := Option.some.inj (shown.symm.trans changed)
    rcases Phase.standsStill?_step own h.phase with nothing | same
    · exact Or.inl nothing
    · exact Or.inr ⟨h, published, rfl, same⟩

theorem Sound.steady_status (sound : s.Sound) : s.Steady s.status.2 := by
  rcases s.status_cases with ⟨-, same⟩ | ⟨h, -, ⟨-, same⟩ | ⟨-, -, ⟨-, same⟩ | ⟨-, same⟩⟩⟩
  · rw [same]
    exact .refl s
  · rw [same]
    exact .refl s
  · rw [same]
    exact sound.steady_transition rfl h.generation
  · rw [same]
    exact .refl s

/-! ## Launching and stopping -/

theorem steady_endLaunch (s : System) (order : LaunchOrder) (result : Except LaunchError Handle) :
    s.Steady (s.endLaunch order result) :=
  .of_eq (by simp [clocks]) (by simp)

theorem steady_reap (s : System) (generation : Nat) :
    s.Steady (s.updateChild generation Child.reap) :=
  .of_eq (clocks_updateChild _ fun _ => ⟨rfl, rfl⟩) rfl

theorem steady_signal (s : System) (generation : Nat) : s.Steady (s.signal generation) :=
  .of_eq (clocks_updateChild _ fun _ => ⟨rfl, rfl⟩) rfl

/-- An operation that enters a stage does nothing else. -/
theorem steady_enter (s : System) (work : Work) : s.Steady (s.enter work) := .of_eq rfl rfl

theorem Sound.steady_proceedLaunch (sound : s.Sound) (order : LaunchOrder) (stage : LaunchStage) :
    s.Steady (s.proceedLaunch order stage) := by
  cases stage with
  | checking =>
    refine sound.steady_status.trans ?_
    simp only [proceedLaunch, liveStatus_eq]
    cases s.status.1.filter Handle.isLive with
    | some h => exact steady_endLaunch _ _ _
    | none => exact steady_enter _ _
  | spawning | probing => exact .refl s
  | polling | culling =>
    simp only [proceedLaunch]
    split
    · exact (steady_reap s _).trans (steady_enter _ _)
    · first
      | exact steady_enter _ _
      | exact .refl s
  | judging =>
    simp only [proceedLaunch]
    split
    · exact (steady_signal s _).trans (steady_enter _ _)
    · exact steady_enter _ _
  | resting =>
    simp only [proceedLaunch]
    split
    · exact steady_enter _ _
    · exact .refl s
  | burying exit | aborting exit =>
    exact (sound.steady_transition rfl _).trans (steady_endLaunch _ _ _)
  | marking => exact (sound.steady_transition rfl _).trans (steady_enter _ _)
  | watching => exact .of_eq (clocks_updateChild _ fun _ => ⟨rfl, rfl⟩) rfl
  | attaching => exact .of_eq rfl rfl
  | returning =>
    have before := sound.steady_status
    simp only [proceedLaunch]
    cases shown : s.status with
    | mk latest after =>
      rw [shown] at before
      cases latest with
      | none => exact before
      | some h => exact before.trans (steady_endLaunch _ _ _)

theorem Sound.steady_endTerminate (sound : s.Sound) (graceful : Bool) :
    s.Steady (s.endTerminate graceful) := by
  have before := sound.steady_status
  unfold endTerminate
  cases shown : s.status with
  | mk latest after =>
    rw [shown] at before
    cases latest with
    | none => exact before
    | some h => exact before.trans (.of_eq rfl rfl)

theorem steady_forceKill (s : System) (generation : Nat) : s.Steady (s.forceKill generation) := by
  unfold forceKill
  simp only
  split
  · exact .of_eq (clocks_updateChild _ fun _ => ⟨rfl, rfl⟩) rfl
  · exact .of_eq (clocks_updateChild _ fun _ => ⟨rfl, rfl⟩) rfl

theorem Sound.steady_proceedTerminate (sound : s.Sound) (graceful : Bool) (stage : TerminateStage) :
    s.Steady (s.proceedTerminate graceful stage) := by
  cases stage with
  | checking =>
    refine sound.steady_status.trans ?_
    simp only [proceedTerminate, liveStatus_eq]
    cases s.status.1.filter Handle.isLive with
    | some h => exact steady_enter _ _
    | none => exact .of_eq rfl rfl
  | requesting h => exact (sound.steady_transition rfl _).trans (steady_enter _ _)
  | quitting h => exact .refl s
  | awaitingQuit h deadline =>
    simp only [proceedTerminate]
    split
    · exact sound.steady_endTerminate graceful
    · split
      · exact steady_enter _ _
      · exact .refl s
  | killing h => exact (steady_forceKill s _).trans (steady_enter _ _)
  | awaitingKill h deadline =>
    simp only [proceedTerminate]
    split
    · split
      · exact .of_eq rfl rfl
      · exact sound.steady_endTerminate graceful
    · split
      · exact .of_eq rfl rfl
      · exact .refl s

/-! ## Everybody else -/

theorem steady_begin (s : System) (work : Work) : s.Steady (s.begin work) := by
  unfold begin
  split
  · exact steady_enter _ _
  · exact .refl s

theorem Sound.steady_watch (sound : s.Sound) (generation : Nat) :
    s.Steady (s.watch generation) := by
  unfold watch
  split
  · exact .refl s
  · split
    · exact .of_eq (clocks_updateChild _ fun _ => ⟨rfl, rfl⟩) rfl
    · exact .of_eq (clocks_updateChild _ fun _ => ⟨rfl, rfl⟩) rfl
    · split
      · exact (steady_signal s _).trans
          (.of_eq (clocks_updateChild _ fun _ => ⟨rfl, rfl⟩) rfl)
      · exact .refl s
    · exact (sound.steady_transition rfl _).trans
        (.of_eq (clocks_updateChild _ fun _ => ⟨rfl, rfl⟩) rfl)
    · exact .refl s

theorem steady_enableRestarts (s : System) (maxRestarts : UInt32) (backoff : Nat) :
    s.Steady (s.enableRestarts maxRestarts backoff) := by
  unfold enableRestarts
  split
  · exact .refl s
  · split
    · exact .refl s
    · exact .of_eq rfl rfl

theorem steady_restart (s : System) : s.Steady s.restart := by
  unfold restart
  split
  · exact .refl s
  · split
    · split
      · exact .refl s
      · exact .of_eq rfl rfl
    · split
      · exact .of_eq rfl rfl
      · exact .refl s
    · split
      · exact .refl s
      · exact .of_eq rfl rfl
    · exact .refl s

theorem steady_listen (s : System) (generation : Nat) (endpoint : String) :
    s.Steady (s.listen generation endpoint) := by
  unfold listen
  split
  · simp only
    split
    · exact .of_eq rfl rfl
    · exact .of_eq (clocks_updateChild _ fun _ => ⟨rfl, rfl⟩) rfl
  · exact .refl s

/-! ## Moves -/

/-- **A move that is no command leaves all guests as they are**, or it starts a process. -/
theorem Sound.steady_apply (sound : s.Sound) {move : Move} (other : move.isCommand = false) :
    s.Steady (s.apply move) ∨ ∃ order pid, s.apply move = s.spawnFor order pid := by
  cases move with
  | pass | host | disableRestarts => exact Or.inl (.of_eq rfl rfl)
  | status => exact Or.inl sound.steady_status
  | launch | relaunch | terminate => exact Or.inl (steady_begin s _)
  | spawn pid =>
    simp only [System.apply]
    split
    · exact Or.inr ⟨_, pid, rfl⟩
    · exact Or.inl (.refl s)
  | probed | quitTold =>
    simp only [System.apply]
    split
    · exact Or.inl (steady_enter s _)
    · exact Or.inl (.refl s)
  | proceed =>
    simp only [System.apply, proceed]
    split
    · exact Or.inl (.refl s)
    · exact Or.inl (sound.steady_proceedLaunch _ _)
    · exact Or.inl (sound.steady_proceedTerminate _ _)
  | watch generation => exact Or.inl (sound.steady_watch generation)
  | enableRestarts => exact Or.inl (steady_enableRestarts s _ _)
  | restart => exact Or.inl (steady_restart s)
  | listen => exact Or.inl (steady_listen s _ _)
  | exit generation exit => exact Or.inl (.of_eq (clocks_updateChild _ fun _ => ⟨rfl, rfl⟩) rfl)
  | dispatch | connect | execute | reply | fail | acknowledge => cases other

/-- A process that was just started is shown as starting, and its guest does not stand
still. -/
theorem showsClock_spawnFor (honest : s.ShowsClock) (order : LaunchOrder) (pid : UInt32) :
    (s.spawnFor order pid).ShowsClock := by
  unfold spawnFor
  simp only
  split
  · exact (Steady.of_eq (by simp [clocks]) (by simp)).showsClock honest
  · rintro h ⟨⟩ still ⟨⟩
    simp [isPaused, child?, Core.install]

/-- **A move that is no command keeps what is shown of the guest true.** -/
theorem Sound.showsClock_apply (sound : s.Sound) (honest : s.ShowsClock) {move : Move}
    (other : move.isCommand = false) : (s.apply move).ShowsClock := by
  rcases sound.steady_apply other with steady | ⟨order, pid, spawned⟩
  · exact steady.showsClock honest
  · rw [spawned]
    exact showsClock_spawnFor honest order pid

/-- **A run without commands keeps what is shown of the guest true.** -/
theorem Sound.showsClock_run (sound : s.Sound) (honest : s.ShowsClock) (moves : List Move)
    (others : ∀ move ∈ moves, move.isCommand = false) : (s.run moves).ShowsClock := by
  induction moves generalizing s with
  | nil => exact honest
  | cons move moves ih =>
    rw [List.forall_mem_cons] at others
    have next := sound.showsClock_apply honest others.1
    exact ih (sound.changes (sound.changes_apply move)) next others.2

end System

end GuestSupervisor.Supervisor
