import GuestSupervisor.Proofs.Supervisor.Beside
import GuestSupervisor.Proofs.Supervisor.Coherence
import GuestSupervisor.Supervisor.Schedule

/-!
# A live instance is looked after

The end of a process is recorded by its watcher, and whoever waits for that record
relies on there being one.  This module shows that a process is never without somebody
who will notice its end: a launch that has not yet started the watcher looks itself, and
from then on the watcher has the process to itself until it has recorded the end.

## Main Definitions

* `System.Attended` — the invariant.

## Main Statements

* `System.Reachable.alive_or_due` — when no launch is in progress, the process of a live
  instance runs, or its watcher has something to do.

## Design Notes

The invariant is kept by whole moves and not by the changes that they are made of: a
launch that waits for the end of its process and goes on to record it does both in one
move.
-/

namespace GuestSupervisor.Supervisor

open Instance Monitor

namespace System

variable {s s' : System}

/-! ## Operations and watchers -/

theorem WatchedAlike.status (s : System) : s.WatchedAlike s.status.2 :=
  (sidesteps_status s).aside.watched

theorem WatchedAlike.forceKill (s : System) (generation : Nat) :
    s.WatchedAlike (s.forceKill generation) := by
  unfold System.forceKill
  simp only
  split
  · exact .updateChild fun _ => ⟨rfl, rfl, rfl⟩
  · exact .updateChild fun _ => ⟨rfl, rfl, rfl⟩

theorem WatchedAlike.endTerminate (s : System) (graceful : Bool) :
    s.WatchedAlike (s.endTerminate graceful) := by
  have alike := status s
  unfold System.endTerminate
  cases shown : s.status with
  | mk latest after =>
    rw [shown] at alike
    cases latest with
    | none => exact alike
    | some h => exact alike.trans (.of_eq rfl)

/-- A stop leaves it to others to wait for the end of the process. -/
theorem WatchedAlike.proceedTerminate (s : System) (graceful : Bool) (stage : TerminateStage) :
    s.WatchedAlike (s.proceedTerminate graceful stage) := by
  cases stage with
  | checking =>
    refine (status s).trans ?_
    simp only [System.proceedTerminate, liveStatus_eq]
    cases s.status.1.filter Handle.isLive with
    | some h => exact .of_eq rfl
    | none => exact .of_eq rfl
  | requesting | quitting => exact .of_eq rfl
  | awaitingQuit h deadline =>
    simp only [System.proceedTerminate]
    split
    · exact endTerminate s graceful
    · split <;> exact .of_eq rfl
  | killing h => exact (forceKill s h.generation).trans (.of_eq rfl)
  | awaitingKill h deadline =>
    simp only [System.proceedTerminate]
    split
    · split
      · exact .of_eq rfl
      · exact endTerminate s graceful
    · split <;> exact .of_eq rfl

end System

/-! ## The invariant -/

/-- While a launch has its process to itself, whether it has waited for the end of it. -/
def LaunchStage.unwatched? : LaunchStage → Option Bool
  | .polling _ | .probing _ | .judging _ | .resting _ _ | .culling | .marking | .watching =>
    some false
  | .burying _ | .aborting _ => some true
  | .checking | .spawning | .attaching | .returning => none

/-- While the operation in progress has the latest process to itself, whether it has waited
for the end of it. -/
def Work.unwatched? : Option Work → Option Bool
  | some (.launching _ stage) => stage.unwatched?
  | _ => none

/-- Whether a watcher has still to wait for the end of its process. -/
def Watcher.waits : Watcher → Bool
  | .waiting | .killing => true
  | _ => false

/-- Whether a watcher has still to record the end of its process. -/
def Watcher.isActive : Watcher → Bool
  | .waiting | .killing | .holding _ => true
  | _ => false

namespace System

variable {asked : Demand → Prop} {s s' : System} {generation : Nat}

theorem unwatched?_proceedTerminate {graceful : Bool} {stage : TerminateStage}
    (current : s.work = some (.terminating graceful stage)) :
    Work.unwatched? (s.proceedTerminate graceful stage).work = none := by
  have stands : Work.unwatched? s.work = none := by rw [current]; rfl
  have ends : Work.unwatched? (s.endTerminate graceful).work = none := by
    have looked := work_status s
    unfold endTerminate
    cases shown : s.status with
    | mk latest after =>
      rw [shown] at looked
      cases latest with
      | none => rwa [show after.work = s.work from looked]
      | some h => rfl
  cases stage with
  | checking =>
    simp only [proceedTerminate, liveStatus_eq]
    cases s.status.1.filter Handle.isLive <;> rfl
  | requesting | killing => rfl
  | quitting => exact stands
  | awaitingQuit h deadline =>
    simp only [proceedTerminate]
    split
    · exact ends
    · split
      · rfl
      · exact stands
  | awaitingKill h deadline =>
    simp only [proceedTerminate]
    split
    · split
      · rfl
      · exact ends
    · split
      · rfl
      · exact stands

/-- The latest instance has ended. -/
def HasEnded (s : System) : Prop := ∃ h, s.core.published = some h ∧ h.phase.isTerminal

/-- **Somebody will notice the end of every process.**  As long as a launch has its process
to itself, nobody else waits for it; afterwards its watcher does, until the end has been
recorded. -/
structure Attended (s : System) : Prop where
  unwatched : ∀ buried, Work.unwatched? s.work = some buried →
    ∀ c ∈ s.children, c.generation = s.core.launched →
      c.watcher = .absent ∧ (c.life.isReaped → buried)
  waits : ∀ c ∈ s.children, c.watcher.waits → c.life.isReaped = false
  watched : Work.unwatched? s.work = none →
    ∀ c ∈ s.children, c.generation = s.core.launched → c.watcher.isActive ∨ s.HasEnded

theorem attended_start (options : SupervisorOptions) (host : Host) (now : Nat) :
    (start options host now).Attended where
  unwatched := by rintro buried ⟨⟩
  waits := by simp [start]
  watched := by simp [start]

/-- An instance that has ended stays so until the next one is launched. -/
theorem HasEnded.quiets (ended : s.HasEnded) (sound : s.Sound) (quiets : Quiets asked s s') :
    s'.HasEnded := by
  obtain ⟨h, published, terminal⟩ := ended
  obtain ⟨h', published', advances⟩ := (sound.precedes_changes (changes_of_quiets quiets)).published
    (launched_quiets quiets) h published
  exact ⟨h', published', by rw [advances.phase terminal]; exact terminal⟩

theorem HasEnded.transition (ended : s.HasEnded) (sound : s.Sound) {event : Event}
    {exit : Option ExitInfo} : (s.transition generation event exit).HasEnded := by
  obtain ⟨h, published, terminal⟩ := ended
  obtain ⟨h', published', advances⟩ :=
    sound.coherent.advances_transition published generation event exit
  exact ⟨h', published', by rw [advances.phase terminal]; exact terminal⟩

theorem Sound.hasEnded_transition (sound : s.Sound) {h : Handle} {event : Event}
    (published : s.core.published = some h) (terminal : (h.phase.step event).isTerminal)
    (exit : Option ExitInfo) : (s.transition s.core.launched event exit).HasEnded :=
  ⟨_, sound.coherent.published_transition published event exit, terminal⟩

namespace Attended

/-- Whatever leaves watchers and the end of processes alone keeps them attended. -/
theorem of_alike (attended : s.Attended) (alike : s.WatchedAlike s')
    (launched : s'.core.launched = s.core.launched) (ended : s.HasEnded → s'.HasEnded)
    (work : Work.unwatched? s'.work = Work.unwatched? s.work) : s'.Attended where
  unwatched := by
    intro buried current c' member latest
    obtain ⟨c, memC, same⟩ := alike c' member
    rw [same.watcher, same.reaped]
    exact attended.unwatched buried (work ▸ current) c memC
      (by rw [← same.generation, latest, launched])
  waits := by
    intro c' member waits
    obtain ⟨c, memC, same⟩ := alike c' member
    rw [same.reaped]
    exact attended.waits c memC (same.watcher ▸ waits)
  watched := by
    intro current c' member latest
    obtain ⟨c, memC, same⟩ := alike c' member
    rw [same.watcher]
    exact (attended.watched (work ▸ current) c memC
      (by rw [← same.generation, latest, launched])).imp_right ended

theorem of_quiets (attended : s.Attended) (sound : s.Sound) (quiets : Quiets asked s s')
    (alike : s.WatchedAlike s') (work : Work.unwatched? s'.work = Work.unwatched? s.work) :
    s'.Attended :=
  attended.of_alike alike (launched_quiets quiets) (fun ended => ended.quiets sound quiets) work

/-- When the latest instance has ended, nobody need attend to its process. -/
theorem of_ended (attended : s.Attended) (alike : s.WatchedAlike s') (ended : s'.HasEnded)
    (work : Work.unwatched? s'.work = none) : s'.Attended where
  unwatched := by
    intro buried current
    rw [work] at current
    cases current
  waits := by
    intro c' member waits
    obtain ⟨c, memC, same⟩ := alike c' member
    rw [same.reaped]
    exact attended.waits c memC (same.watcher ▸ waits)
  watched := fun _ _ _ _ => Or.inr ended

/-- A launch that has its process to itself waits for the end of it. -/
theorem reap (attended : s.Attended) (current : Work.unwatched? s.work = some false)
    {order : LaunchOrder} {next : LaunchStage} (buries : next.unwatched? = some true) :
    ((s.updateChild s.core.launched Child.reap).enter (.launching order next)).Attended := by
  refine ⟨?_, ?_, ?_⟩
  · intro buried same c' member latest
    obtain rfl : true = buried := Option.some.inj (buries.symm.trans same)
    obtain ⟨c, memC, rfl⟩ := List.mem_map.mp member
    by_cases here : c.generation = s.core.launched
    · rw [if_pos here]
      exact ⟨(attended.unwatched false current c memC here).1, fun _ => rfl⟩
    · rw [if_neg here] at latest
      exact absurd latest here
  · intro c' member waits
    obtain ⟨c, memC, rfl⟩ := List.mem_map.mp member
    by_cases here : c.generation = s.core.launched
    · rw [if_pos here] at waits
      have absent := (attended.unwatched false current c memC here).1
      simp [Child.reap, absent, Watcher.waits] at waits
    · rw [if_neg here] at waits ⊢
      exact attended.waits c memC waits
  · intro same
    exact absurd (buries.symm.trans same) (by simp)

/-- **A watcher takes a step.**  It takes over from the launch or it goes on, and once it has
nothing more to do the end has been recorded. -/
theorem rewatch (attended : s.Attended) {change : Child → Child}
    (children : s'.children = (s.updateChild generation change).children)
    (launched : s'.core.launched = s.core.launched) (ended : s.HasEnded → s'.HasEnded)
    (keeps : ∀ c, (change c).generation = c.generation)
    (active : generation = s.core.launched → (∀ c, (change c).watcher.isActive) ∨ s'.HasEnded)
    (waits : ∀ c ∈ s.children, c.generation = generation → (change c).watcher.waits →
      (change c).life.isReaped = false)
    (elsewhere : ∀ buried, Work.unwatched? s'.work = some buried →
      Work.unwatched? s.work = some buried ∧ generation ≠ s.core.launched)
    (onward : Work.unwatched? s'.work = none →
      Work.unwatched? s.work = none ∨ generation = s.core.launched) : s'.Attended := by
  refine ⟨?_, ?_, ?_⟩
  · intro buried current c' member latest
    rw [children] at member
    obtain ⟨c, memC, rfl⟩ := List.mem_map.mp member
    obtain ⟨before, other⟩ := elsewhere buried current
    rw [launched] at latest
    by_cases here : c.generation = generation
    · rw [if_pos here, keeps] at latest
      exact absurd (here.symm.trans latest) other
    · rw [if_neg here] at latest ⊢
      exact attended.unwatched buried before c memC latest
  · intro c' member waiting
    rw [children] at member
    obtain ⟨c, memC, rfl⟩ := List.mem_map.mp member
    by_cases here : c.generation = generation
    · rw [if_pos here] at waiting ⊢
      exact waits c memC here waiting
    · rw [if_neg here] at waiting ⊢
      exact attended.waits c memC waiting
  · intro current c' member latest
    rw [children] at member
    obtain ⟨c, memC, rfl⟩ := List.mem_map.mp member
    rw [launched] at latest
    by_cases here : c.generation = generation
    · rw [if_pos here, keeps] at latest
      rw [if_pos here]
      exact (active (here.symm.trans latest)).imp_left fun all => all c
    · rw [if_neg here] at latest ⊢
      rcases onward current with before | same
      · exact (attended.watched before c memC latest).imp_right ended
      · exact absurd (latest.trans same.symm) here

/-- A watcher's step keeps all processes attended. -/
theorem watch (attended : s.Attended) (sound : s.Sound) (generation : Nat) :
    (s.watch generation).Attended := by
  unfold System.watch
  cases found : s.child? generation with
  | none => exact attended
  | some c =>
    obtain ⟨member, number⟩ := sound.child?_eq_some_iff.mp found
    have only : ∀ d ∈ s.children, d.generation = generation → d = c := fun d memD same =>
      sound.eq_of_generation_eq memD member (same.trans number.symm)
    -- A launch has only processes to itself that have no watcher yet.
    have elsewhere : c.watcher ≠ .absent → ∀ buried, Work.unwatched? s.work = some buried →
        Work.unwatched? s.work = some buried ∧ generation ≠ s.core.launched := by
      intro watched buried current
      refine ⟨current, fun latest => watched ?_⟩
      exact (attended.unwatched buried current c member (number.trans latest)).1
    have seesEnd : ∀ exit, c.watcher ≠ .absent → (s.updateChild generation
        fun c => { c.reap with watcher := .holding exit }).Attended := fun exit watched =>
      attended.rewatch rfl rfl id (fun _ => rfl) (fun _ => Or.inl fun _ => rfl)
        (fun _ _ _ waits => by simp [Watcher.waits] at waits) (elsewhere watched) Or.inl
    simp only
    split
    · exact seesEnd _ (by simp_all)
    · exact seesEnd _ (by simp_all)
    · rename_i watcher _
      split
      · have signalled : (s.signal generation).Attended :=
          attended.of_alike .signal rfl id rfl
        refine signalled.rewatch rfl rfl id (fun _ => rfl) (fun _ => Or.inl fun _ => rfl) ?_
          (elsewhere (by simp [watcher])) Or.inl
        -- It was still waiting, so nobody has waited for the end.
        intro d' memD' same _
        obtain ⟨d, memD, rfl⟩ := List.mem_map.mp memD'
        have here : d.generation = generation := by
          by_contra other
          rw [if_neg other] at same
          exact other same
        obtain rfl := only d memD here
        simpa [here] using attended.waits d memD (by rw [watcher]; rfl)
      · exact attended
    · rename_i exit watcher
      refine attended.rewatch rfl Core.launched_transition (fun ended => ended.transition sound)
        (fun _ => rfl) ?_ (fun _ _ _ waits => by simp [Watcher.waits] at waits)
        (elsewhere (by simp [watcher])) Or.inl
      -- If it is the latest, its end has just been recorded.
      rintro rfl
      refine Or.inr ?_
      have pos : 0 < s.core.launched := by
        rw [← sound.length_children]
        exact List.length_pos_of_mem member
      obtain ⟨-, h, -, published, -⟩ := sound.coherent.exists_of_pos pos
      exact sound.hasEnded_transition published (isTerminal_step_exited h.phase exit.success)
        (some exit)
    · exact attended

/-- A launch's step keeps all processes attended. -/
theorem proceedLaunch (attended : s.Attended) (sound : s.Sound) {order : LaunchOrder}
    {stage : LaunchStage} (current : s.work = some (.launching order stage)) :
    (s.proceedLaunch order stage).Attended := by
  have quiets : Quiets (fun _ => False) s (s.proceedLaunch order stage) :=
    sound.quiets_proceedLaunch current
  have stands : Work.unwatched? s.work = stage.unwatched? := by rw [current]; rfl
  have fits := sound.fits _ current
  cases stage with
  | checking =>
    have looked := WatchedAlike.status s
    refine attended.of_quiets sound quiets ?_ ?_
    · simp only [System.proceedLaunch, liveStatus_eq]
      cases s.status.1.filter Handle.isLive with
      | some h => exact looked.trans (.of_eq (by simp))
      | none => exact looked.trans (.of_eq rfl)
    · rw [stands]
      simp only [System.proceedLaunch, liveStatus_eq]
      cases s.status.1.filter Handle.isLive with
      | some h => simp [Work.unwatched?, LaunchStage.unwatched?]
      | none => rfl
  | spawning | probing => exact attended
  | polling deadline =>
    simp only [System.proceedLaunch] at quiets ⊢
    split
    · exact attended.reap stands rfl
    · exact attended.of_alike (.of_eq rfl) rfl id stands.symm
  | judging deadline =>
    simp only [System.proceedLaunch]
    split
    · exact attended.of_alike .signal rfl id stands.symm
    · exact attended.of_alike (.of_eq rfl) rfl id stands.symm
  | resting deadline wake =>
    simp only [System.proceedLaunch]
    split
    · exact attended.of_alike (.of_eq rfl) rfl id stands.symm
    · exact attended
  | burying exit =>
    obtain ⟨h, published, -⟩ := fits.1
    have ended := sound.hasEnded_transition published
      (isTerminal_step_exited h.phase exit.success) (some exit)
    refine attended.of_ended (.of_eq (by simp [System.proceedLaunch, System.transition])) ?_
      (by simp [System.proceedLaunch, Work.unwatched?])
    simpa [System.proceedLaunch, HasEnded] using ended
  | culling =>
    simp only [System.proceedLaunch]
    split
    · exact attended.reap stands rfl
    · exact attended
  | aborting exit =>
    obtain ⟨h, published, phase⟩ := fits.1
    have terminal : (h.phase.step .launchAborted).isTerminal := by
      rcases phase with starting | crashed
      · rw [starting]
        rfl
      · rw [crashed]
        rfl
    have ended := sound.hasEnded_transition published terminal (some exit)
    refine attended.of_ended (.of_eq (by simp [System.proceedLaunch, System.transition])) ?_
      (by simp [System.proceedLaunch, Work.unwatched?])
    simpa [System.proceedLaunch, HasEnded] using ended
  | marking => exact attended.of_quiets sound quiets (.of_eq rfl) stands.symm
  | watching =>
    have unseen : ∀ c ∈ s.children, c.generation = s.core.launched → c.life.isReaped = false := by
      intro c member latest
      by_contra reaped
      simpa using (attended.unwatched false stands c member latest).2 (by simpa using reaped)
    exact attended.rewatch rfl rfl id (fun _ => rfl) (fun _ => Or.inl fun _ => rfl)
      (fun c member latest _ => unseen c member latest) (by rintro buried ⟨⟩) (fun _ => Or.inr rfl)
  | attaching => exact attended.of_quiets sound quiets (.of_eq rfl) stands.symm
  | returning =>
    have looked := WatchedAlike.status s
    refine attended.of_quiets sound quiets ?_ ?_
    · simp only [System.proceedLaunch]
      cases shown : s.status with
      | mk latest after =>
        rw [shown] at looked
        cases latest with
        | none => exact looked
        | some h => exact looked.trans (.of_eq (by simp))
    · rw [stands]
      simp only [System.proceedLaunch]
      have work := work_status s
      cases shown : s.status with
      | mk latest after =>
        rw [shown] at work
        cases latest with
        | none =>
          rw [show after.work = s.work from work]
          exact stands
        | some h => simp [Work.unwatched?, LaunchStage.unwatched?]

/-- A process that has just been started is attended by its launch. -/
theorem started (attended : s.Attended) (sound : s.Sound) (order : LaunchOrder) (pid : UInt32)
    (program : Program) (host : Host) (deadline : Nat)
    (current : s.work = some (.launching order .spawning)) :
    (s.started order pid program host deadline).Attended := by
  refine ⟨?_, ?_, ?_⟩
  · rintro buried ⟨⟩ c member latest
    -- No process before it has its number.
    obtain rfl := (sound.started order pid program host deadline current).eq_of_generation_eq
      member List.mem_cons_self latest
    exact ⟨rfl, by simp [Life.isReaped]⟩
  · intro c member waits
    rcases List.mem_cons.mp member with rfl | old
    · simp [Watcher.waits] at waits
    · exact attended.waits c old waits
  · rintro ⟨⟩

/-- **Processes stay attended**, whatever happens. -/
theorem apply (attended : s.Attended) (sound : s.Sound) (move : Move) :
    (s.apply move).Attended := by
  by_cases aside : move.isAside
  · have beside := Aside.apply (s := s) aside
    have quiets := sound.quiets_apply move (by rintro pid rfl; simp [Move.isAside] at aside)
    exact attended.of_quiets sound quiets beside.watched (by rw [beside.work])
  cases move with
  | pass | host | status | dispatch | enableRestarts | disableRestarts | listen | exit | connect
  | execute | reply | fail | acknowledge => exact absurd rfl aside
  | launch | relaunch | terminate =>
    simp only [System.apply, begin]
    cases idle : s.work with
    | none => exact attended.of_alike (.of_eq rfl) rfl id (by rw [idle]; rfl)
    | some work => exact attended
  | spawn pid =>
    simp only [System.apply]
    split
    · rename_i order current
      unfold spawnFor
      simp only
      split
      · refine attended.of_alike (.of_eq (by simp)) (by simp) (fun ended => ?_) ?_
        · simpa [HasEnded] using ended
        · rw [current, work_endLaunch]
          rfl
      · exact attended.started sound order pid _ _ _ current
    · exact attended
  | probed accepted =>
    simp only [System.apply]
    split
    · rename_i order deadline current
      refine attended.of_alike (.of_eq rfl) rfl id ?_
      rw [current]
      cases accepted <;> rfl
    · exact attended
  | quitTold =>
    simp only [System.apply]
    split
    · rename_i current
      exact attended.of_alike (.of_eq rfl) rfl id (by rw [current]; rfl)
    · exact attended
  | proceed =>
    simp only [System.apply, proceed]
    split
    · exact attended
    · exact attended.proceedLaunch sound ‹_›
    · rename_i graceful stage current
      have quiets : Quiets (fun _ => False) s (s.proceedTerminate graceful stage) :=
        quiets_proceedTerminate current
      refine attended.of_quiets sound quiets (.proceedTerminate s graceful stage) ?_
      rw [unwatched?_proceedTerminate current, current]
      rfl
  | watch generation => exact attended.watch sound generation
  | restart =>
    simp only [System.apply, System.restart]
    split
    · exact attended
    · split
      · split
        · exact attended
        · exact attended.of_alike (.of_eq rfl) rfl id rfl
      · split
        · exact attended.of_alike (.of_eq rfl) rfl id rfl
        · exact attended
      · split
        · exact attended
        · rename_i idle
          exact attended.of_alike (.of_eq rfl) rfl id (by rw [idle]; rfl)
      · exact attended

end Attended

theorem Reachable.attended (reachable : s.Reachable) : s.Attended :=
  reachable.move_induction attended_start fun reached attended move =>
    attended.apply reached.sound move

/-- **A live instance is looked after.**  When no launch is in progress, the process of an
instance that has not ended runs, or its watcher has something to do. -/
theorem Reachable.alive_or_due (reachable : s.Reachable)
    (noLaunch : ∀ order stage, s.work ≠ some (.launching order stage)) {h : Handle}
    (published : s.core.published = some h) (live : h.phase.isTerminal = false) :
    ∃ c ∈ s.children, c.generation = h.generation ∧
      (c.life = .alive ∨ Schedule.watcherIsDue c) := by
  have sound := reachable.sound
  have latest := sound.coherent.published h published
  have pos : 0 < s.core.launched := sound.coherent.isSome.mp (by rw [published]; rfl)
  obtain ⟨c, member, number⟩ := sound.exists_child pos (Nat.le_refl _)
  refine ⟨c, member, number.trans latest.symm, ?_⟩
  have stands : Work.unwatched? s.work = none := by
    cases work : s.work with
    | none => rfl
    | some work' =>
      cases work' with
      | launching order stage => exact absurd work (noLaunch order stage)
      | terminating graceful stage => rfl
  have notEnded : ¬s.HasEnded := by
    rintro ⟨h', published', terminal⟩
    obtain rfl : h = h' := Option.some.inj (published.symm.trans published')
    simp [live] at terminal
  have active := (reachable.attended.watched stands c member number).resolve_right notEnded
  have waits := reachable.attended.waits c member
  -- An active watcher that waits is due as soon as the process has ended.
  unfold Schedule.watcherIsDue
  cases watcher : c.watcher with
  | absent | finished => simp [watcher, Watcher.isActive] at active
  | holding exit => exact Or.inr rfl
  | waiting | killing =>
    cases life : c.life with
    | alive => exact Or.inl rfl
    | ended exit => exact Or.inr rfl
    | reaped exit => simp [watcher, life, Watcher.waits, Life.isReaped] at waits

end System

end GuestSupervisor.Supervisor
