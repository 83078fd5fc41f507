import GuestSupervisor.Proofs.Supervisor.Stop

/-!
# The quit timeout

A stop that has told the emulator to quit waits until the end of the process is recorded, and kills
the process when the quit timeout has gone by without a record.  The record is the watcher's, and
nothing says how soon the watcher makes it.  So a stop may kill a process that has ended in time, if
its watcher is late.  It does not when watchers are prompt, that is, when time goes on only while
none of them has anything to do: a process that is killed then still ran at the end of the timeout.

## Main Definitions

* `System.StopGoesOn` — a stop that is in progress at one moment still is at another.
* `System.QuitUnrecorded` — no end was recorded within the quit timeout.
* `System.QuitOutlived` — the process still ran at the end of the quit timeout.
* `System.Promptly`, `System.PromptlyReachable` — runs in which no watcher is late.

## Main Statements

* `System.now_apply` — nothing takes time but time that goes by.
* `System.Reachable.killsOnly` — a stop kills after it has asked only when no end was recorded.
* `System.PromptlyReachable.killsOnly` — in a prompt run, only when the process still ran.
-/

namespace GuestSupervisor.Supervisor

open Instance

/-- How much time goes by in a move. -/
def Move.elapsed : Move → Nat
  | .pass milliseconds => milliseconds
  | _ => 0

/-- The instance that a stop kills. -/
def TerminateStage.condemned? : TerminateStage → Option Handle
  | .killing h | .awaitingKill h _ => some h
  | _ => none

namespace System

variable {s t : System} {graceful : Bool} {stage : TerminateStage} {move : Move} {generation : Nat}

/-! ## The clock -/

@[simp] theorem now_status (s : System) : s.status.2.now = s.now := by
  obtain ⟨core, same⟩ := s.exists_core_status
  rw [same]

@[simp] theorem now_endLaunch (s : System) (order : LaunchOrder)
    (result : Except LaunchError Handle) : (s.endLaunch order result).now = s.now := by
  unfold endLaunch
  simp only
  split <;> rfl

theorem now_proceedLaunch (s : System) (order : LaunchOrder) (stage : LaunchStage) :
    (s.proceedLaunch order stage).now = s.now := by
  have shown := s.now_status
  cases stage with
  | checking =>
    simp only [proceedLaunch, liveStatus_eq]
    cases s.status.1.filter Handle.isLive with
    | some h => exact (now_endLaunch ..).trans shown
    | none => exact shown
  | polling | judging | resting | culling =>
    simp only [proceedLaunch]
    split <;> rfl
  | burying | aborting => exact now_endLaunch ..
  | spawning | probing | marking | watching | attaching => rfl
  | returning =>
    simp only [proceedLaunch]
    cases looked : s.status with
    | mk latest after =>
      rw [looked] at shown
      cases latest with
      | none => exact shown
      | some h => exact (now_endLaunch ..).trans shown

theorem now_endTerminate (s : System) (graceful : Bool) :
    (s.endTerminate graceful).now = s.now := by
  have shown := s.now_status
  unfold endTerminate
  cases looked : s.status with
  | mk latest after =>
    rw [looked] at shown
    cases latest <;> exact shown

theorem now_proceedTerminate (s : System) (graceful : Bool) (stage : TerminateStage) :
    (s.proceedTerminate graceful stage).now = s.now := by
  cases stage with
  | checking =>
    simp only [proceedTerminate, liveStatus_eq]
    cases s.status.1.filter Handle.isLive <;> exact s.now_status
  | requesting | quitting => rfl
  | awaitingQuit h deadline =>
    simp only [proceedTerminate]
    split
    · exact s.now_endTerminate graceful
    · split <;> rfl
  | killing h =>
    simp only [proceedTerminate, forceKill]
    split <;> rfl
  | awaitingKill h deadline =>
    simp only [proceedTerminate]
    split
    · split
      · rfl
      · exact s.now_endTerminate graceful
    · split <;> rfl

theorem now_watch (s : System) (generation : Nat) : (s.watch generation).now = s.now := by
  unfold watch
  split
  · rfl
  · split
    · rfl
    · rfl
    · split <;> rfl
    · rfl
    · rfl

theorem now_restart (s : System) : s.restart.now = s.now := by
  unfold restart
  split
  · rfl
  · split
    · split <;> rfl
    · split <;> rfl
    · split <;> rfl
    · rfl

theorem now_beginDispatch (s : System) (expected : Option Nat) (command : ControlCommand) :
    (s.beginDispatch expected command).now = s.now := by
  have shown := now_status { s with dispatched := s.dispatched + 1 }
  unfold beginDispatch
  simp only
  split <;> exact shown

/-- **Nothing takes time but time that goes by.** -/
theorem now_apply (s : System) (move : Move) : (s.apply move).now = s.now + move.elapsed := by
  cases move with
  | pass => rfl
  | status => exact s.now_status
  | dispatch expected command => exact s.now_beginDispatch expected command
  | proceed =>
    simp only [System.apply, proceed]
    split
    · rfl
    · exact now_proceedLaunch ..
    · exact now_proceedTerminate ..
  | watch generation => exact s.now_watch generation
  | restart => exact s.now_restart
  | spawn pid =>
    simp only [System.apply]
    split
    · unfold spawnFor
      simp only
      split
      · exact now_endLaunch ..
      · rfl
    · rfl
  | enableRestarts =>
    simp only [System.apply, enableRestarts]
    split
    · rfl
    · split <;> rfl
  | acknowledge id =>
    simp only [System.apply, acknowledge]
    split
    · split
      · split <;> rfl
      · rfl
    · rfl
  | connect id =>
    simp only [System.apply, connect]
    split
    · split <;> rfl
    · rfl
  | execute id =>
    simp only [System.apply, execute]
    split
    · split
      · split <;> rfl
      · rfl
    · rfl
  | listen generation endpoint =>
    simp only [System.apply, listen]
    split
    · split <;> rfl
    · rfl
  | launch | relaunch | terminate =>
    simp only [System.apply, begin]
    split <;> rfl
  | probed | quitTold =>
    simp only [System.apply]
    split <;> rfl
  | reply id =>
    simp only [System.apply, reply]
    split <;> rfl
  | fail id =>
    simp only [System.apply, fail]
    split <;> rfl
  | host | disableRestarts | exit => rfl

/-! ## Runs in which no watcher is late -/

/-- **A move leaves watchers their time**: time goes on only when none has anything to do. -/
def IsPrompt (s : System) (move : Move) : Prop :=
  move.elapsed ≠ 0 → ∀ c ∈ s.children, Schedule.watcherIsDue c = false

instance (s : System) (move : Move) : Decidable (s.IsPrompt move) :=
  inferInstanceAs (Decidable (_ → _))

/-- **No watcher is late** in a run. -/
def Promptly (s : System) : List Move → Prop
  | [] => True
  | move :: moves => s.IsPrompt move ∧ (s.apply move).Promptly moves

instance decidablePromptly : (s : System) → (moves : List Move) → Decidable (s.Promptly moves)
  | _, [] => .isTrue trivial
  | s, move :: moves =>
    have := decidablePromptly (s.apply move) moves
    inferInstanceAs (Decidable (s.IsPrompt move ∧ (s.apply move).Promptly moves))

/-- **Some run leads to the system in which no watcher is late.** -/
def PromptlyReachable (s : System) : Prop :=
  ∃ options host now moves, (start options host now).Promptly moves ∧
    s = (start options host now).run moves

theorem PromptlyReachable.reachable (reachable : s.PromptlyReachable) : s.Reachable := by
  obtain ⟨options, host, now, moves, -, rfl⟩ := reachable
  exact ⟨options, host, now, moves, rfl⟩

/-- What holds at the start and is kept by every move for which no watcher is late. -/
theorem PromptlyReachable.move_induction {motive : System → Prop} (reachable : s.PromptlyReachable)
    (initial : ∀ options host now, motive (start options host now))
    (kept : ∀ {a : System}, a.Reachable → motive a → ∀ move, a.IsPrompt move →
      motive (a.apply move)) : motive s := by
  obtain ⟨options, host, now, moves, prompt, rfl⟩ := reachable
  have reached := reachable_start options host now
  have begun := initial options host now
  generalize start options host now = s at reached begun prompt
  induction moves generalizing s with
  | nil => exact begun
  | cons move moves ih =>
    exact ih _ (reached.run [move]) (kept reached begun move prompt.1) prompt.2

/-! ## Waiting for the end -/

/-- One move of a stop that is still in progress after it. -/
def StopMove (s s' : System) : Prop :=
  (∃ move, s' = s.apply move) ∧ ∃ graceful stage, s'.work = some (.terminating graceful stage)

/-- **A stop that is in progress at one moment still is at another.** -/
def StopGoesOn : System → System → Prop := Relation.ReflTransGen StopMove

/-- **No end was recorded within the quit timeout.**  When the stop in progress was through with
telling the emulator to quit, it began to wait.  The whole timeout later the end of the process was
not recorded: the process still ran, or it had ended and its watcher had yet to say so. -/
def QuitUnrecorded (s : System) (generation : Nat) : Prop :=
  ∃ told late : System, ∃ h deadline, told.Reachable ∧
    told.work = some (.terminating true (.quitting h)) ∧ h.generation = generation ∧
    (told.apply .quitTold).StopGoesOn late ∧
    late.work = some (.terminating true (.awaitingQuit h deadline)) ∧
    told.now + told.options.quitTimeout.count.toNat ≤ late.now ∧
    late.core.isOver generation = false ∧
    (∃ c ∈ late.children, c.generation = generation ∧
      (c.life = .alive ∨ Schedule.watcherIsDue c)) ∧
    late.StopGoesOn s

/-- **The process outlived the quit timeout**: it still ran when the whole timeout had gone by since
the stop was through with telling the emulator to quit.  A timeout of zero has gone by at once. -/
def QuitOutlived (s : System) (generation : Nat) : Prop :=
  ∃ told expired : System, ∃ h, told.Reachable ∧
    told.work = some (.terminating true (.quitting h)) ∧ h.generation = generation ∧
    (told.apply .quitTold).StopGoesOn expired ∧
    told.now + told.options.quitTimeout.count.toNat ≤ expired.now ∧
    (told.options.quitTimeout.count.toNat ≠ 0 →
      ∃ c ∈ expired.children, c.generation = generation ∧ c.life = .alive) ∧
    expired.StopGoesOn s

theorem QuitUnrecorded.tail (unrecorded : s.QuitUnrecorded generation) (next : s.StopMove t) :
    t.QuitUnrecorded generation := by
  obtain ⟨told, late, h, deadline, reached, quitting, number, waited, waiting, due, runs, attended,
    goesOn⟩ := unrecorded
  exact ⟨told, late, h, deadline, reached, quitting, number, waited, waiting, due, runs, attended,
    goesOn.tail next⟩

theorem QuitOutlived.tail (outlived : s.QuitOutlived generation) (next : s.StopMove t) :
    t.QuitOutlived generation := by
  obtain ⟨told, expired, h, reached, quitting, number, waited, due, runs, goesOn⟩ := outlived
  exact ⟨told, expired, h, reached, quitting, number, waited, due, runs, goesOn.tail next⟩

/-- **A stop beyond its first look was in progress before the move**, at the same stage or at the
one before. -/
theorem stopMove_of_apply (after : (s.apply move).work = some (.terminating graceful stage))
    (beyond : stage ≠ .checking) :
    s.StopMove (s.apply move) ∧
      (s.work = some (.terminating graceful stage) ∨
        ∃ before, s.work = some (.terminating graceful before) ∧
          before.Goes s graceful move stage) := by
  refine ⟨⟨⟨move, rfl⟩, _, _, after⟩, ?_⟩
  obtain ⟨before, current⟩ := (terminating_of_apply after).resolve_left beyond
  rcases apply_terminating_cases current move with
    ⟨work, -⟩ | ⟨next, goes, work, -⟩ | ⟨result, t, -, answered⟩
  · exact Or.inl (work ▸ after)
  · rw [work] at after
    cases after
    exact Or.inr ⟨before, current, goes⟩
  · rw [answered] at after
    cases after

/-- **A stop that waits for the end was told to begin**, and its deadline is the quit timeout
later. -/
def Awaits (s : System) : Prop :=
  ∀ h deadline, s.work = some (.terminating true (.awaitingQuit h deadline)) →
    ∃ told : System, told.Reachable ∧ told.work = some (.terminating true (.quitting h)) ∧
      (told.apply .quitTold).StopGoesOn s ∧
      deadline = told.now + told.options.quitTimeout.count.toNat

theorem Reachable.awaits (reachable : s.Reachable) : s.Awaits := by
  refine reachable.move_induction (by rintro options host now h deadline ⟨⟩) ?_
  intro a reached awaits move h deadline after
  obtain ⟨moved, same | ⟨before, current, goes⟩⟩ := stopMove_of_apply after (by simp)
  · obtain ⟨told, reached, quitting, goesOn, due⟩ := awaits h deadline same
    exact ⟨told, reached, quitting, goesOn.tail moved, due⟩
  · cases goes
    exact ⟨a, reached, current, .refl, rfl⟩

/-- An instance that is over stays so as long as the stop is in progress. -/
theorem Sound.isOver_apply (sound : s.Sound)
    (current : s.work = some (.terminating graceful stage)) {p : Handle}
    (published : s.core.published = some p) (finished : s.core.isOver p.generation) (move : Move) :
    (s.apply move).core.isOver generation := by
  have ended := (hasEnded_of_isOver published rfl finished).quiets sound
    (sound.quiets_of_terminating current move)
  obtain ⟨p', published', terminal⟩ := ended
  exact isOver_of_published published' terminal generation

/-! ## Killing after asking -/

/-- **A stop that has asked kills only where something holds.** -/
def KillsOnly (holds : System → Nat → Prop) (s : System) : Prop :=
  ∀ stage h, s.work = some (.terminating true stage) → stage.condemned? = some h →
    holds s h.generation

/-- What the stop goes on with holds when it gives up waiting, and so until it ends. -/
theorem KillsOnly.apply {holds : System → Nat → Prop} (kills : s.KillsOnly holds)
    (tail : ∀ generation t, holds s generation → s.StopMove t → holds t generation)
    (late : ∀ h deadline, s.work = some (.terminating true (.awaitingQuit h deadline)) →
      s.core.isOver h.generation = false → deadline ≤ s.now → holds s h.generation)
    (move : Move) : (s.apply move).KillsOnly holds := by
  intro stage h after condemned
  have beyond : stage ≠ .checking := by
    rintro rfl
    cases condemned
  obtain ⟨moved, same | ⟨before, current, goes⟩⟩ := stopMove_of_apply after beyond
  · exact tail _ _ (kills stage h same condemned) moved
  · cases goes with
    | found | asked | told => cases condemned
    | condemned _ rude => cases rude
    | late _ deadline runs due =>
      cases condemned
      exact tail _ _ (late h deadline current runs due) moved
    | killed =>
      cases condemned
      exact tail _ _ (kills _ h current rfl) moved

/-- **A stop waits on the clock**: as long as no end is recorded, its deadline is still to come, or
the process outlived the timeout. -/
def Punctual (s : System) : Prop :=
  ∀ h deadline, s.work = some (.terminating true (.awaitingQuit h deadline)) →
    s.core.isOver h.generation = false → s.now < deadline ∨ s.QuitOutlived h.generation

/-- Only time that goes by brings a deadline about, and then the process still runs. -/
theorem Punctual.apply (punctual : s.Punctual) (reachable : s.Reachable) {move : Move}
    (prompt : s.IsPrompt move) : (s.apply move).Punctual := by
  intro h deadline after runs
  obtain ⟨moved, same | ⟨before, current, goes⟩⟩ := stopMove_of_apply after (by simp)
  · obtain ⟨p, published, number⟩ := reachable.pinned true _ h same rfl
    have ran : s.core.isOver h.generation = false := by
      by_contra ended
      rw [Bool.not_eq_false, ← number] at ended
      rw [reachable.sound.isOver_apply same published ended move] at runs
      cases runs
    rcases punctual h deadline same ran with early | outlived
    · rw [now_apply]
      by_cases come : s.now + move.elapsed < deadline
      · exact Or.inl come
      · have elapsed : move.elapsed ≠ 0 := by omega
        obtain ⟨milliseconds, rfl⟩ : ∃ milliseconds, move = .pass milliseconds := by
          cases move with
          | pass milliseconds => exact ⟨milliseconds, rfl⟩
          | _ => exact absurd rfl elapsed
        obtain ⟨told, reached, quitting, goesOn, rfl⟩ := reachable.awaits h deadline same
        obtain ⟨c, member, generation, alive | due⟩ := reachable.alive_or_due (by simp [same])
          published (isTerminal_of_not_isOver published ran)
        · exact Or.inr ⟨told, s.apply (.pass milliseconds), h, reached, quitting, rfl,
            goesOn.tail moved, Nat.le_of_not_lt come,
            fun _ => ⟨c, member, generation.trans number, alive⟩, .refl⟩
        · rw [prompt elapsed c member] at due
          cases due
    · exact Or.inr (outlived.tail moved)
  · cases goes
    rw [now_apply]
    by_cases zero : s.options.quitTimeout.count.toNat = 0
    · exact Or.inr ⟨s, _, h, reachable, current, rfl, .refl, by rw [now_apply, zero]; exact le_rfl,
        fun some => absurd zero some, .refl⟩
    · exact Or.inl (Nat.add_lt_add_left (Nat.pos_of_ne_zero zero) s.now)

theorem PromptlyReachable.punctual (reachable : s.PromptlyReachable) : s.Punctual :=
  reachable.move_induction (by rintro options host now h deadline ⟨⟩)
    fun reached punctual _ prompt => punctual.apply reached prompt

end System

end GuestSupervisor.Supervisor
