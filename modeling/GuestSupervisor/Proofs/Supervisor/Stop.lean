import GuestSupervisor.Proofs.Supervisor.Attended
import GuestSupervisor.Proofs.Supervisor.Restart

/-!
# A stop in progress

A stop looks for a live instance, records the request, tells the emulator to quit, waits,
kills it and waits again, and at any moment of this the process may end and anybody else
may do anything.  This module follows a stop from stage to stage: what one move makes of it,
and which instance it is about.

## Main Definitions

* `TerminateStage.Goes`, `TerminateStage.Ends` — the steps of a stop and its answers.

## Main Statements

* `System.apply_terminating_cases` — what one move makes of a stop.
* `System.terminating_of_apply` — where a stop comes from.
* `System.Reachable.pinned` — a stop is about the latest instance.
-/

namespace GuestSupervisor.Supervisor

open Instance

/-! ## From stage to stage -/

/-- Whether a move is one of a stop itself, or nothing but time that goes by. -/
def Move.isOfStop : Move → Bool
  | .pass _ | .quitTold | .proceed => true
  | _ => false

/-- The instance that a stop has found. -/
def TerminateStage.handle? : TerminateStage → Option Handle
  | .checking => none
  | .requesting h | .quitting h | .awaitingQuit h _ | .killing h | .awaitingKill h _ => some h

/-- **A move takes a stop to its next stage.** -/
inductive TerminateStage.Goes (s : System) (graceful : Bool) :
    Move → TerminateStage → TerminateStage → Prop
  | found (h : Handle) (shown : s.status.1 = some h) (live : h.isLive) :
      Goes s graceful .proceed .checking (.requesting h)
  | asked (h : Handle) (polite : graceful = true) :
      Goes s graceful .proceed (.requesting h) (.quitting h)
  | condemned (h : Handle) (rude : graceful = false) :
      Goes s graceful .proceed (.requesting h) (.killing h)
  | told (h : Handle) :
      Goes s graceful .quitTold (.quitting h)
        (.awaitingQuit h (s.now + s.options.quitTimeout.count.toNat))
  | late (h : Handle) (deadline : Nat) (runs : s.core.isOver h.generation = false)
      (due : deadline ≤ s.now) :
      Goes s graceful .proceed (.awaitingQuit h deadline) (.killing h)
  | killed (h : Handle) :
      Goes s graceful .proceed (.killing h) (.awaitingKill h (s.now + killGrace))

/-- **A stop ends with a result**, in a system that has possibly looked at its instance once
more. -/
inductive TerminateStage.Ends (s : System) (graceful : Bool) :
    TerminateStage → Except TerminateError Handle → System → Prop
  | notRunning (dead : s.liveStatus.1 = none) :
      Ends s graceful .checking (.error .notRunning) s.status.2
  | quit (h : Handle) (deadline : Nat) (shown : Handle) (finished : s.core.isOver h.generation)
      (found : s.status.1 = some shown) :
      Ends s graceful (.awaitingQuit h deadline) (.ok shown) s.status.2
  | killed (h : Handle) (deadline : Nat) (shown : Handle) (finished : s.core.isOver h.generation)
      (found : s.status.1 = some shown) :
      Ends s graceful (.awaitingKill h deadline) (.ok shown) s.status.2
  | escalated (h : Handle) (deadline : Nat) (finished : s.core.isOver h.generation)
      (polite : graceful = true) :
      Ends s graceful (.awaitingKill h deadline) (.error (.escalatedToKill h.generation)) s
  | survived (h : Handle) (deadline : Nat) (runs : s.core.isOver h.generation = false)
      (due : deadline ≤ s.now) :
      Ends s graceful (.awaitingKill h deadline) (.error (.killFailed h.generation (some h.pid))) s

namespace System

variable {s t : System} {graceful : Bool} {stage : TerminateStage} {move : Move}

@[simp] theorem answers_status (s : System) : s.status.2.answers = s.answers := by
  obtain ⟨core, same⟩ := s.exists_core_status
  rw [same]

@[simp] theorem children_status (s : System) : s.status.2.children = s.children := by
  obtain ⟨core, same⟩ := s.exists_core_status
  rw [same]

/-- The stop in progress stands where it did and no operation is answered. -/
def StopStands (s s' : System) : Prop :=
  s'.work = s.work ∧ s'.answers.filter Answer.endsWork = s.answers.filter Answer.endsWork

theorem StopStands.refl (s : System) : s.StopStands s := ⟨rfl, rfl⟩

theorem stopStands_watch (s : System) (generation : Nat) : s.StopStands (s.watch generation) := by
  unfold watch
  split
  · exact .refl s
  · split
    · exact ⟨rfl, rfl⟩
    · exact ⟨rfl, rfl⟩
    · split
      · exact ⟨rfl, rfl⟩
      · exact .refl s
    · exact ⟨rfl, rfl⟩
    · exact .refl s

/-- What a stop makes of the end that it waits for. -/
theorem endTerminate_cases (s : System) (graceful : Bool) :
    s.StopStands (s.endTerminate graceful) ∨ ∃ h, s.status.1 = some h ∧
      s.endTerminate graceful = s.status.2.answer (.terminated graceful (.ok h)) := by
  have work := work_status s
  have answers := answers_status s
  unfold endTerminate
  cases shown : s.status with
  | mk latest after =>
    rw [shown] at work answers
    cases latest with
    | none => exact Or.inl ⟨work, by rw [answers]⟩
    | some h => exact Or.inr ⟨h, rfl, rfl⟩

/-- What the next step of a stop comes to. -/
theorem proceedTerminate_cases (current : s.work = some (.terminating graceful stage)) :
    s.StopStands (s.proceedTerminate graceful stage) ∨
    (∃ next, stage.Goes s graceful .proceed next ∧
      (s.proceedTerminate graceful stage).work = some (.terminating graceful next) ∧
      (s.proceedTerminate graceful stage).answers = s.answers) ∨
    ∃ result after, stage.Ends s graceful result after ∧
      s.proceedTerminate graceful stage = after.answer (.terminated graceful result) := by
  cases stage with
  | checking =>
    refine Or.inr ?_
    simp only [proceedTerminate, liveStatus_eq]
    cases live : s.status.1.filter Handle.isLive with
    | some h =>
      obtain ⟨shown, isLive⟩ := Option.filter_eq_some_iff.mp live
      exact Or.inl ⟨_, .found h shown isLive, rfl, answers_status s⟩
    | none => exact Or.inr ⟨_, _, .notRunning live, rfl⟩
  | requesting h =>
    refine Or.inr (Or.inl ?_)
    cases graceful with
    | true => exact ⟨_, .asked h rfl, rfl, rfl⟩
    | false => exact ⟨_, .condemned h rfl, rfl, rfl⟩
  | quitting h => exact Or.inl (.refl s)
  | awaitingQuit h deadline =>
    simp only [proceedTerminate]
    split
    · rename_i finished
      rcases s.endTerminate_cases graceful with stands | ⟨shown, found, ends⟩
      · exact Or.inl stands
      · exact Or.inr (Or.inr ⟨_, _, .quit h deadline shown finished found, ends⟩)
    · rename_i runs
      split
      · exact Or.inr (Or.inl ⟨_, .late h deadline (by simpa using runs) ‹_›, rfl, rfl⟩)
      · exact Or.inl (.refl s)
  | killing h =>
    refine Or.inr (Or.inl ⟨_, .killed h, rfl, ?_⟩)
    simp only [proceedTerminate, forceKill]
    split <;> rfl
  | awaitingKill h deadline =>
    simp only [proceedTerminate]
    split
    · rename_i finished
      split
      · exact Or.inr (Or.inr ⟨_, _, .escalated h deadline finished ‹_›, rfl⟩)
      · rcases s.endTerminate_cases graceful with stands | ⟨shown, found, ends⟩
        · exact Or.inl stands
        · exact Or.inr (Or.inr ⟨_, _, .killed h deadline shown finished found, ends⟩)
    · rename_i runs
      split
      · exact Or.inr (Or.inr ⟨_, _, .survived h deadline (by simpa using runs) ‹_›, rfl⟩)
      · exact Or.inl (.refl s)

/-- **What one move makes of a stop**: it stands, goes on to another stage or ends. -/
theorem apply_terminating_cases (current : s.work = some (.terminating graceful stage))
    (move : Move) :
    s.StopStands (s.apply move) ∨
    (∃ next, stage.Goes s graceful move next ∧
      (s.apply move).work = some (.terminating graceful next) ∧
      (s.apply move).answers = s.answers) ∨
    ∃ result after, stage.Ends s graceful result after ∧
      s.apply move = after.answer (.terminated graceful result) := by
  by_cases aside : move.isAside
  · have beside := Aside.apply (s := s) aside
    exact Or.inl ⟨beside.work, beside.answers⟩
  cases move with
  | pass | host | status | dispatch | enableRestarts | disableRestarts | listen | exit | connect
  | execute | reply | fail | acknowledge => exact absurd rfl aside
  | launch | relaunch | terminate =>
    refine Or.inl ?_
    simp only [System.apply, begin, current]
    exact .refl s
  | spawn | probed =>
    refine Or.inl ?_
    simp only [System.apply, current]
    exact .refl s
  | quitTold =>
    simp only [System.apply, current]
    cases stage with
    | quitting h => exact Or.inr (Or.inl ⟨_, .told h, rfl, rfl⟩)
    | _ => exact Or.inl (.refl s)
  | proceed =>
    simp only [System.apply, proceed, current]
    exact proceedTerminate_cases current
  | watch generation => exact Or.inl (s.stopStands_watch generation)
  | restart =>
    refine Or.inl ?_
    simp only [System.apply, System.restart, current]
    split
    · exact .refl s
    · split
      · split
        · exact .refl s
        · exact ⟨current.symm, rfl⟩
      · split
        · exact ⟨current.symm, rfl⟩
        · exact .refl s
      · exact .refl s
      · exact .refl s

/-- A launch remains a launch until it ends. -/
theorem work_proceedLaunch_cases {order : LaunchOrder} {stage : LaunchStage}
    (current : s.work = some (.launching order stage)) :
    (s.proceedLaunch order stage).work = none ∨
      ∃ next, (s.proceedLaunch order stage).work = some (.launching order next) := by
  cases stage with
  | checking =>
    simp only [proceedLaunch, liveStatus_eq]
    cases s.status.1.filter Handle.isLive with
    | some h => exact Or.inl (work_endLaunch ..)
    | none => exact Or.inr ⟨_, rfl⟩
  | spawning | probing => exact Or.inr ⟨_, current⟩
  | polling | judging =>
    simp only [proceedLaunch]
    split
    · exact Or.inr ⟨_, rfl⟩
    · exact Or.inr ⟨_, rfl⟩
  | resting | culling =>
    simp only [proceedLaunch]
    split
    · exact Or.inr ⟨_, rfl⟩
    · exact Or.inr ⟨_, current⟩
  | burying | aborting => exact Or.inl (work_endLaunch ..)
  | marking | watching | attaching => exact Or.inr ⟨_, rfl⟩
  | returning =>
    have work := work_status s
    simp only [proceedLaunch]
    cases shown : s.status with
    | mk latest after =>
      rw [shown] at work
      cases latest with
      | none => exact Or.inr ⟨_, work.trans current⟩
      | some h => exact Or.inl (work_endLaunch ..)

/-- **Where a stop comes from**: a stop that has got beyond its first look was in progress
before the move. -/
theorem terminating_of_apply (after : (s.apply move).work = some (.terminating graceful stage)) :
    stage = .checking ∨ ∃ before, s.work = some (.terminating graceful before) := by
  have unchanged : (s.apply move).work = s.work →
      stage = .checking ∨ ∃ before, s.work = some (.terminating graceful before) :=
    fun same => Or.inr ⟨stage, same ▸ after⟩
  by_cases aside : move.isAside
  · exact unchanged (Aside.apply aside).work
  cases move with
  | pass | host | status | dispatch | enableRestarts | disableRestarts | listen | exit | connect
  | execute | reply | fail | acknowledge => exact absurd rfl aside
  | launch | relaunch | terminate =>
    simp only [System.apply, begin] at after unchanged
    split at after
    · cases after <;> exact Or.inl rfl
    · exact Or.inr ⟨stage, after⟩
  | spawn pid =>
    simp only [System.apply] at after
    split at after
    · unfold spawnFor at after
      simp only at after
      split at after
      · rw [work_endLaunch] at after
        cases after
      · cases after
    · exact Or.inr ⟨stage, after⟩
  | probed accepted =>
    simp only [System.apply] at after
    split at after
    · cases after
    · exact Or.inr ⟨stage, after⟩
  | quitTold =>
    simp only [System.apply] at after
    split at after
    · cases after
      exact Or.inr ⟨_, ‹_›⟩
    · exact Or.inr ⟨stage, after⟩
  | proceed =>
    simp only [System.apply, proceed] at after
    split at after
    · exact Or.inr ⟨stage, after⟩
    · rename_i current
      rcases work_proceedLaunch_cases current with ended | ⟨next, goesOn⟩
      · rw [ended] at after
        cases after
      · rw [goesOn] at after
        cases after
    · rename_i graceful' before current
      rcases proceedTerminate_cases current with
        ⟨work, -⟩ | ⟨next, -, work, -⟩ | ⟨result, t, -, answered⟩
      · exact Or.inr ⟨stage, work ▸ after⟩
      · rw [work] at after
        cases after
        exact Or.inr ⟨before, current⟩
      · rw [answered] at after
        cases after
  | watch generation => exact unchanged (s.stopStands_watch generation).1
  | restart =>
    simp only [System.apply, System.restart] at after
    split at after
    · exact Or.inr ⟨stage, after⟩
    · split at after
      · split at after
        · exact Or.inr ⟨stage, after⟩
        · exact Or.inr ⟨stage, after⟩
      · split at after
        · exact Or.inr ⟨stage, after⟩
        · exact Or.inr ⟨stage, after⟩
      · split at after
        · exact Or.inr ⟨stage, after⟩
        · cases after
      · exact Or.inr ⟨stage, after⟩

/-! ## The instance that a stop is about -/

/-- A stop that is in progress starts no process. -/
theorem Sound.quiets_of_terminating (sound : s.Sound)
    (current : s.work = some (.terminating graceful stage)) (move : Move) :
    Quiets move.demands s (s.apply move) := by
  rcases sound.apply_cases move with quiets | ⟨order, -, -, -, -, spawning, -⟩
  · exact quiets
  · rw [current] at spawning
    cases spawning

/-- **A stop is about the latest instance.** -/
def Pinned (s : System) : Prop :=
  ∀ graceful stage h, s.work = some (.terminating graceful stage) → stage.handle? = some h →
    ∃ p, s.core.published = some p ∧ p.generation = h.generation

theorem Sound.published_of_shown (sound : s.Sound) {h : Handle} (shown : s.status.1 = some h) :
    ∃ p, s.core.published = some p ∧ p.generation = h.generation := by
  rcases s.status_cases with ⟨-, same⟩ | ⟨p, published, -⟩
  · rw [same] at shown
    cases shown
  · exact ⟨p, published,
      (sound.coherent.published p published).trans (sound.generation_of_status shown).symm⟩

theorem Pinned.apply (pinned : s.Pinned) (sound : s.Sound) (move : Move) :
    (s.apply move).Pinned := by
  intro graceful stage h after handle
  rcases terminating_of_apply after with rfl | ⟨before, current⟩
  · cases handle
  have quiets := sound.quiets_of_terminating current move
  have kept : (∃ p, s.core.published = some p ∧ p.generation = h.generation) →
      ∃ p, (s.apply move).core.published = some p ∧ p.generation = h.generation := by
    rintro ⟨p, published, same⟩
    obtain ⟨p', published', advances⟩ :=
      (sound.precedes_changes (changes_of_quiets quiets)).published (launched_quiets quiets) p
        published
    exact ⟨p', published', advances.generation.trans same⟩
  refine kept ?_
  rcases apply_terminating_cases current move with
    ⟨work, -⟩ | ⟨next, goes, work, -⟩ | ⟨result, t, -, answered⟩
  · exact pinned graceful stage h (work ▸ after) handle
  · obtain rfl : next = stage := by
      rw [work] at after
      cases after
      rfl
    cases goes with
    | found _ shown live =>
      cases handle
      exact sound.published_of_shown shown
    | asked | condemned | told | late | killed => exact pinned graceful _ h current handle
  · rw [answered] at after
    cases after

theorem Reachable.pinned (reachable : s.Reachable) : s.Pinned :=
  reachable.move_induction (by rintro options host now graceful stage h ⟨⟩)
    fun reached pinned move => pinned.apply reached.sound move

/-- Whoever waits for the end of an instance that nobody has replaced has waited for its
end. -/
theorem hasEnded_of_isOver {h p : Handle} (published : s.core.published = some p)
    (same : p.generation = h.generation) (finished : s.core.isOver h.generation) : s.HasEnded := by
  refine ⟨p, published, ?_⟩
  simpa [Core.isOver, published, same] using finished

theorem isTerminal_of_not_isOver {h p : Handle} (published : s.core.published = some p)
    (runs : s.core.isOver h.generation = false) : p.phase.isTerminal = false := by
  simp only [Core.isOver, published, Option.all_some, Bool.or_eq_false_iff] at runs
  exact runs.2

end System

end GuestSupervisor.Supervisor
