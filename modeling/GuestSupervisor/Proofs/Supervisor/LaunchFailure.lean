import GuestSupervisor.Proofs.Supervisor.Launch
import GuestSupervisor.Proofs.Supervisor.StopOutcome

/-!
# Launches that fail

A launch can fail in four places: at its look for a live instance, as it starts the process, when
the process ends before its monitor answers, and when time is up.  The first two leave everything
that is shared as it was.  The other two have taken a generation, and leave its instance shown as
crashed, with the exit of a process that is gone.  Whatever was in the way of the launch, after all
but the first the way is free.

## Main Definitions

* `System.Fails` — a move ends the launch in progress with an error.
* `System.Buried` — an instance is shown as it has ended.

## Main Statements

* `System.ends_of_fails` — an error is the end of a stage.
* `System.failed_launches` — what a launch that fails leaves behind.
-/

namespace GuestSupervisor.Supervisor

open Instance

namespace System

variable {asked : Demand → Prop} {s s' t : System} {order : LaunchOrder} {stage : LaunchStage}
  {move : Move} {generation : Nat} {error : LaunchError}

/-! ## Failures -/

/-- A move ends the launch in progress with an error. -/
def Fails (s : System) (move : Move) (order : LaunchOrder) (error : LaunchError) : Prop :=
  (s.apply move).answers = .launched order.origin (.error error) :: s.answers

theorem answers_of_goes {next : LaunchStage} (goes : stage.Goes s move next s') :
    s'.answers = s.answers := by
  cases goes with
  | passed => exact answers_status s
  | _ => rfl

/-- **An error is the end of a stage.** -/
theorem ends_of_fails (current : s.work = some (.launching order stage))
    (fails : s.Fails move order error) :
    ∃ after, stage.Ends s order move (.error error) after ∧
      s.apply move = after.endLaunch order (.error error) := by
  have answered : (s.apply move).answers.filter Answer.endsWork
      ≠ s.answers.filter Answer.endsWork :=
    fun same => Answer.ne_cons_of_endsWork rfl same fails
  cases apply_launching_cases current move with
  | aside steps => exact absurd steps.aside.answers answered
  | watch generation same =>
    exact absurd (by rw [same, (s.stopStands_watch generation).2]) answered
  | goes next after goes same =>
    exact absurd (by rw [same, enter, answers_of_goes goes]) answered
  | starts waits pid program host deadline same => exact absurd (by rw [same]; rfl) answered
  | ends result after ends same =>
    unfold Fails at fails
    rw [same, answers_endLaunch] at fails
    obtain ⟨-, rfl⟩ := Answer.launched.inj (List.cons.inj fails).1
    exact ⟨after, ends, same⟩

@[simp] theorem host_endLaunch (s : System) (order : LaunchOrder)
    (result : Except LaunchError Handle) : (s.endLaunch order result).host = s.host := by
  unfold endLaunch
  cases order.origin <;> rfl

/-! ## The look for a live instance -/

/-- The live instance that is shown is the one that is published. -/
theorem Sound.published_of_live (sound : s.Sound) {h : Handle} (live : s.liveStatus.1 = some h) :
    s.core.published = some h ∧ h.isLive := by
  have found : s.status.1.filter Handle.isLive = some h := live
  obtain ⟨shown, isLive⟩ := Option.filter_eq_some_iff.mp found
  refine ⟨?_, isLive⟩
  rcases s.status_cases with ⟨-, same⟩ | ⟨h', published, ⟨-, same⟩ | ⟨-, gone, -⟩⟩
  · rw [same] at shown
    cases shown
  · rw [same] at shown
    exact published.trans shown
  · -- What is shown of a process that is gone is not live.
    rw [sound.coherent.published h' published] at gone
    simp [Handle.isLive, (sound.down_of_isGone gone).2 h shown] at isLive

/-- **The look for a live instance changes nothing.** -/
theorem Reachable.proceed_checking (reachable : s.Reachable)
    (current : s.work = some (.launching order .checking)) :
    (s.apply .proceed).core = s.core ∧ (s.apply .proceed).host = s.host := by
  have unchanged : s.status.2 = s := reachable.status_eq_self fun order' stage' other => by
    rw [current] at other
    cases other
    rfl
  simp only [System.apply, proceed, current, proceedLaunch, liveStatus_eq, unchanged]
  cases s.status.1.filter Handle.isLive with
  | some h => exact ⟨core_endLaunch .., host_endLaunch ..⟩
  | none => exact ⟨rfl, rfl⟩

/-! ## The way is free -/

theorem isGone_quiet (quiet : Quiet asked s s') (gone : s.isGone generation) :
    s'.isGone generation := by
  cases quiet with
  | outside s' core children => rwa [isGone_of_children_eq children]
  | child other change advances => exact isGone_updateChild advances gone
  | launchEnded => rwa [isGone_of_children_eq (children_endLaunch ..)]
  | _ => exact gone

/-- The latest process stays gone until the next one is started. -/
theorem Sound.isGone_changes (sound : s.Sound) (changes : Changes s t)
    (same : t.core.launched = s.core.launched) (gone : s.isGone s.core.launched) :
    t.isGone t.core.launched := by
  induction changes with
  | refl => exact gone
  | @tail a b earlier last ih =>
    have before := (sound.precedes_changes earlier).launched
    have after := ((sound.changes earlier).precedes_change last).launched
    have gone := ih (by omega)
    cases last with
    | started order pid program host deadline current =>
      have more : (a.started order pid program host deadline).core.launched
          = a.core.launched + 1 := rfl
      omega
    | quiet quiet =>
      rw [launched_quiet quiet]
      exact isGone_quiet quiet gone

/-- **A launch is let through** when the latest process is gone. -/
theorem Sound.work_proceed_checking_of_isGone (sound : s.Sound) (gone : s.isGone s.core.launched)
    (current : s.work = some (.launching order .checking)) :
    (s.apply .proceed).work = some (.launching order .spawning) := by
  have dead : s.status.1.filter Handle.isLive = none :=
    sound.liveStatus_eq_none_iff.mpr fun c member => sound.isReaped_of_isGone gone member
  simp only [System.apply, proceed, current, proceedLaunch, liveStatus_eq, dead]
  rfl

/-- Every failure but the first leaves the latest process gone. -/
theorem Sound.isGone_of_fails (sound : s.Sound) (current : s.work = some (.launching order stage))
    (fails : s.Fails move order error)
    (other : ∀ generation phase, error ≠ .alreadyRunning generation phase) :
    (s.apply move).isGone (s.apply move).core.launched := by
  have fits := sound.fits _ current
  obtain ⟨after, ends, same⟩ := ends_of_fails current fails
  rw [same, core_endLaunch, isGone_of_children_eq (children_endLaunch ..)]
  cases ends with
  | refused h live => exact absurd rfl (other _ _)
  | unstarted pid failure host => exact fits
  | died exit | late exit =>
    rw [System.transition, Core.launched_transition]
    exact fits.2

/-! ## The instance that is left -/

/-- **An instance is shown as it has ended**: it is the latest and what was ordered, and shown as
crashed with the exit of its process, which is gone. -/
structure Buried (s : System) (order : LaunchOrder) (h : Handle) (exit : ExitInfo) : Prop where
  published : s.core.published = some h
  latest : h.generation = s.core.launched
  makes : order.Makes h
  crashed : h.phase = .crashed
  recorded : h.exit = some exit
  reaped : s.EndedWith h.generation exit

/-- **A launch that has seen the end of its process buries it.** -/
theorem Reachable.buried (reachable : s.Reachable)
    (current : s.work = some (.launching order stage))
    {exit : ExitInfo} (seen : stage.exit? = some exit) {event : Event}
    (ends : event = .launchAborted ∨ ∃ success, event = .exited success)
    (result : Except LaunchError Handle) :
    ∃ h, ((s.transition s.core.launched event (some exit)).endLaunch order result).Buried
      order h exit := by
  have sound := reachable.sound
  obtain ⟨startingUp, process, unwatched⟩ :
      s.IsStartingUp ∧ stage.hasProcess ∧ stage.unwatched? = some true := by
    have fits := sound.fits _ current
    cases stage with
    | burying | aborting => exact ⟨fits.1, rfl, rfl⟩
    | _ => cases seen
  have holds := reachable.inHand order stage true current unwatched
  obtain ⟨h, published, crashed⟩ := startingUp.crashes sound ends (some exit)
  -- Nobody has recorded an exit before the launch does.
  have unrecorded : h.exit = none := by simpa [recordedExit?, published] using holds.recorded
  have latest := sound.coherent.published h published
  have makes := reachable.obeys order stage h current process published
  refine ⟨{ h with phase := .crashed, exit := h.exit.or (some exit) }, ?_, ?_,
    ⟨makes.command, makes.configuration, makes.restarts⟩, rfl, ?_, ?_⟩
  · rw [core_endLaunch]
    exact crashed
  · rw [core_endLaunch, System.transition, Core.launched_transition]
    exact latest
  · rw [unrecorded]
    rfl
  · obtain ⟨c, member, number, life⟩ := holds.ended exit seen
    refine ⟨c, ?_, number.trans latest.symm, life⟩
    rw [children_endLaunch]
    exact member

/-! ## What is left -/

/-- **What a launch that fails leaves behind**, whatever has happened before and happens meanwhile.

* To ask for a launch changes nothing that is shared, and no more does the look for a live
  instance.
* A launch is told of a live instance at its first look only, and it is told of the one that is
  published; it has changed nothing, no file either.
* A launch whose process could not be started has taken no generation, and has changed neither the
  machine nor what is published.
* A launch whose process has ended, or was killed because time was up, leaves what was ordered shown
  as crashed, with the exit of its process, which is gone.
* After every failure but the first, the next launch is let through, whatever happens until then
  without a process being started. -/
theorem failed_launches (s : System) (reachable : s.Reachable) :
    (∀ move : Move, move.asks → (s.apply move).core = s.core ∧ (s.apply move).host = s.host) ∧
    (∀ order, s.work = some (.launching order .checking) →
      (s.apply .proceed).core = s.core ∧ (s.apply .proceed).host = s.host) ∧
    ∀ order stage move error, s.work = some (.launching order stage) → s.Fails move order error →
      (s.apply move).work = none ∧
      (∀ generation phase, error = .alreadyRunning generation phase →
        stage = .checking ∧ (s.apply move).core = s.core ∧ (s.apply move).host = s.host ∧
        ∃ h, s.core.published = some h ∧ h.isLive ∧ h.generation = generation ∧ h.phase = phase) ∧
      (∀ program failure, error = .spawnFailed program failure →
        stage = .spawning ∧ (s.apply move).core = s.core) ∧
      (∀ exit, error = .exitedDuringStartup exit → ∃ h, (s.apply move).Buried order h exit) ∧
      (∀ limit, error = .endpointTimeout limit → ∃ h exit, (s.apply move).Buried order h exit) ∧
      ((∀ generation phase, error ≠ .alreadyRunning generation phase) → ∀ moves order',
        ((s.apply move).run moves).core.launched = (s.apply move).core.launched →
        ((s.apply move).run moves).work = some (.launching order' .checking) →
          (((s.apply move).run moves).apply .proceed).work
            = some (.launching order' .spawning)) := by
  have sound := reachable.sound
  refine ⟨fun move asks => ?_, fun order => reachable.proceed_checking, ?_⟩
  · cases move with
    | launch | relaunch =>
      simp only [System.apply, begin]
      split <;> exact ⟨rfl, rfl⟩
    | _ => cases asks
  intro order stage move error current fails
  obtain ⟨after, ends, same⟩ := ends_of_fails current fails
  refine ⟨by rw [same, work_endLaunch], ?_, ?_, ?_, ?_, fun other moves order' launched next => ?_⟩
  · rintro generation phase rfl
    cases ends with
    | refused h live =>
      obtain ⟨published, isLive⟩ := sound.published_of_live live
      obtain ⟨core, host⟩ := reachable.proceed_checking current
      exact ⟨rfl, core, host, h, published, isLive, rfl, rfl⟩
  · rintro program failure rfl
    cases ends with
    | unstarted pid failure host => exact ⟨rfl, by rw [same, core_endLaunch]⟩
  · rintro exit rfl
    rw [same]
    cases ends with
    | died exit => exact reachable.buried current rfl (.inr ⟨_, rfl⟩) _
  · rintro limit rfl
    rw [same]
    cases ends with
    | late exit =>
      obtain ⟨h, buried⟩ := reachable.buried current rfl (.inl rfl) _
      exact ⟨h, exit, buried⟩
  · have sound' : (s.apply move).Sound := (reachable.run [move]).sound
    have changes := sound'.changes_run moves
    exact (sound'.changes changes).work_proceed_checking_of_isGone
      (sound'.isGone_changes changes launched (sound.isGone_of_fails current fails other)) next

/-- A launch whose process ends before its monitor is open, about to record the end. -/
def endsAtOnce : System :=
  (start bareOptions bareHost 0).run
    [.launch bareCommand {}, .proceed, .spawn 1000, .exit 1 (.ofCode 3), .proceed]

/-- What was ordered is shown as crashed with its exit, and the next launch starts a process. -/
theorem failed_launches_ended_at_once :
    (∃ h, (endsAtOnce.apply .proceed).Buried ⟨bareCommand, {}, 0, .caller⟩ h (.ofCode 3)) ∧
    (((endsAtOnce.apply .proceed).run [.launch bareCommand {}]).apply .proceed).work
      = some (.launching ⟨bareCommand, {}, 0, .caller⟩ .spawning) := by
  have reachable : endsAtOnce.Reachable := (reachable_start _ _ _).run _
  have current : endsAtOnce.work
      = some (.launching ⟨bareCommand, {}, 0, .caller⟩ (.burying (.ofCode 3))) := rfl
  have fails : endsAtOnce.Fails .proceed ⟨bareCommand, {}, 0, .caller⟩
      (.exitedDuringStartup (.ofCode 3)) := rfl
  obtain ⟨-, -, -, buried, -, next⟩ :=
    (failed_launches endsAtOnce reachable).2.2 _ _ _ _ current fails
  exact ⟨buried _ rfl, next (by rintro _ _ ⟨⟩) [.launch bareCommand {}] _ rfl rfl⟩

end System

end GuestSupervisor.Supervisor
