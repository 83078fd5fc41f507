import GuestSupervisor.Proofs.Supervisor.Stop

/-!
# A launch in progress

A launch looks for a live instance, starts a process, and looks at it and at its monitor by turns
until one of them answers or time is up; then it makes the watcher known, or buries the process.
This module follows a launch from stage to stage: what one move makes of it, who learns of the end
of its process, and which instance is published meanwhile.

## Main Definitions

* `LaunchStage.Goes`, `LaunchStage.Ends` — the steps of a launch and its answers.
* `System.LaunchStep` — what one move makes of a launch.
* `System.Known` — the watcher of a live instance is known.
* `System.InHand` — nobody but the launch learns how its process ended.

## Main Statements

* `System.apply_launching_cases` — what one move makes of a launch.
* `System.Sound.launching_of_apply` — where a launch comes from.
* `System.Reachable.status_eq_self` — to look at an instance whose launch is over changes nothing.
* `System.Reachable.inHand` — a launch has the end of its process to itself.
* `System.Reachable.obeys` — the instance of a launch is what was ordered.
-/

namespace GuestSupervisor.Supervisor

open Instance

/-! ## From stage to stage -/

/-- **A move takes a launch to its next stage**, after something was done to the system. -/
inductive LaunchStage.Goes (s : System) : Move → LaunchStage → LaunchStage → System → Prop
  | passed (dead : s.liveStatus.1 = none) : Goes s .proceed .checking .spawning s.status.2
  | runs (deadline : Nat) : Goes s .proceed (.polling deadline) (.probing deadline) s
  | died (deadline : Nat) (exit : ExitInfo)
      (ended : (s.child? s.core.launched).map Child.life = some (.ended exit)) :
      Goes s .proceed (.polling deadline) (.burying exit)
        (s.updateChild s.core.launched Child.reap)
  | reached (deadline : Nat) : Goes s (.probed true) (.probing deadline) .marking s
  | missed (deadline : Nat) : Goes s (.probed false) (.probing deadline) (.judging deadline) s
  | condemned (deadline : Nat) (due : deadline ≤ s.now) :
      Goes s .proceed (.judging deadline) .culling (s.signal s.core.launched)
  | rests (deadline : Nat) :
      Goes s .proceed (.judging deadline) (.resting deadline (s.now + readinessPause)) s
  | woke (deadline wake : Nat) (due : wake ≤ s.now) :
      Goes s .proceed (.resting deadline wake) (.polling deadline) s
  | culled (exit : ExitInfo)
      (ended : (s.child? s.core.launched).map Child.life = some (.ended exit)) :
      Goes s .proceed .culling (.aborting exit) (s.updateChild s.core.launched Child.reap)
  | marked : Goes s .proceed .marking .watching (s.transition s.core.launched .endpointReady none)
  | watched : Goes s .proceed .watching .attaching
      (s.updateChild s.core.launched fun c => { c with watcher := .waiting })
  | attached : Goes s .proceed .attaching .returning
      { s with core := s.core.attach s.core.launched }

/-- **A launch ends with a result**, after something was done to the system. -/
inductive LaunchStage.Ends (s : System) (order : LaunchOrder) :
    Move → LaunchStage → Except LaunchError Handle → System → Prop
  | refused (h : Handle) (live : s.liveStatus.1 = some h) :
      Ends s order .proceed .checking (.error (.alreadyRunning h.generation h.phase)) s.status.2
  | unstarted (pid : UInt32) (failure : IoFailure) (host : Host) :
      Ends s order (.spawn pid) .spawning
        (.error (.spawnFailed order.command.program failure)) { s with host }
  | died (exit : ExitInfo) :
      Ends s order .proceed (.burying exit) (.error (.exitedDuringStartup exit))
        (s.transition s.core.launched (.exited exit.success) (some exit))
  | late (exit : ExitInfo) :
      Ends s order .proceed (.aborting exit) (.error (.endpointTimeout s.options.launchTimeout))
        (s.transition s.core.launched .launchAborted (some exit))
  | ready (h : Handle) (shown : s.status.1 = some h) :
      Ends s order .proceed .returning (.ok h) s.status.2

namespace System

variable {asked : Demand → Prop} {s s' : System} {order : LaunchOrder} {stage next : LaunchStage}
  {move : Move} {generation : Nat} {exit : ExitInfo}

/-- **What one move makes of a launch.** -/
inductive LaunchStep (s : System) (order : LaunchOrder) (stage : LaunchStage) (move : Move)
    (s' : System) : Prop
  /-- It stands, and something happens beside. -/
  | aside (steps : s.Sidesteps s')
  /-- It stands, and a watcher takes a step. -/
  | watch (generation : Nat) (same : s' = s.watch generation)
  | goes (next : LaunchStage) (after : System) (goes : stage.Goes s move next after)
      (same : s' = after.enter (.launching order next))
  | starts (waits : stage = .spawning) (pid : UInt32) (program : Program) (host : Host)
      (deadline : Nat) (same : s' = s.started order pid program host deadline)
  | ends (result : Except LaunchError Handle) (after : System)
      (ends : stage.Ends s order move result after) (same : s' = after.endLaunch order result)

/-- What the next step of a launch comes to. -/
theorem launchStep_proceed (current : s.work = some (.launching order stage)) :
    s.LaunchStep order stage .proceed (s.proceedLaunch order stage) := by
  cases stage with
  | checking =>
    simp only [proceedLaunch, liveStatus_eq]
    cases live : s.status.1.filter Handle.isLive with
    | some h => exact .ends _ _ (.refused h live) rfl
    | none => exact .goes _ _ (.passed live) rfl
  | spawning | probing => exact .aside .refl
  | polling deadline =>
    simp only [proceedLaunch]
    split
    · exact .goes _ _ (.died deadline _ ‹_›) rfl
    · exact .goes _ _ (.runs deadline) rfl
  | judging deadline =>
    simp only [proceedLaunch]
    split
    · exact .goes _ _ (.condemned deadline ‹_›) rfl
    · exact .goes _ _ (.rests deadline) rfl
  | resting deadline wake =>
    simp only [proceedLaunch]
    split
    · exact .goes _ _ (.woke deadline wake ‹_›) rfl
    · exact .aside .refl
  | burying exit => exact .ends _ _ (.died exit) rfl
  | culling =>
    simp only [proceedLaunch]
    split
    · exact .goes _ _ (.culled _ ‹_›) rfl
    · exact .aside .refl
  | aborting exit => exact .ends _ _ (.late exit) rfl
  | marking => exact .goes _ _ .marked rfl
  | watching => exact .goes _ _ .watched rfl
  | attaching => exact .goes _ _ .attached rfl
  | returning =>
    have looked := sidesteps_status s
    have work := (work_status s).trans current
    simp only [proceedLaunch]
    cases shown : s.status with
    | mk latest after =>
      rw [shown] at looked
      cases latest with
      | none => exact .aside looked
      | some h =>
        exact .ends _ _ (.ready h (by rw [shown])) (by rw [shown])

/-- **What one move makes of a launch**: it stands, goes on to another stage, starts its process or
ends. -/
theorem apply_launching_cases (current : s.work = some (.launching order stage)) (move : Move) :
    s.LaunchStep order stage move (s.apply move) := by
  by_cases aside : move.isAside
  · exact .aside (sidesteps_apply aside)
  cases move with
  | pass | host | status | dispatch | enableRestarts | disableRestarts | listen | exit | connect
  | execute | reply | fail | acknowledge => exact absurd rfl aside
  | launch | relaunch | terminate | quitTold =>
    refine .aside ?_
    simp only [System.apply, begin, current]
    exact .refl
  | spawn pid =>
    simp only [System.apply, current]
    cases stage with
    | spawning =>
      simp only [spawnFor]
      split
      · exact .ends _ _ (.unstarted pid _ _) rfl
      · exact .starts rfl pid _ _ _ rfl
    | _ => exact .aside .refl
  | probed accepted =>
    simp only [System.apply, current]
    cases stage with
    | probing deadline =>
      cases accepted with
      | true => exact .goes _ _ (.reached deadline) rfl
      | false => exact .goes _ _ (.missed deadline) rfl
    | _ => exact .aside .refl
  | proceed =>
    simp only [System.apply, proceed, current]
    exact launchStep_proceed current
  | watch generation => exact .watch generation rfl
  | restart =>
    refine .aside ?_
    simp only [System.apply, System.restart, current]
    split
    · exact .refl
    · split
      · split
        · exact .refl
        · exact sidesteps_of_eq rfl rfl current.symm rfl
      · split
        · exact sidesteps_of_eq rfl rfl current.symm rfl
        · exact .refl
      · exact .refl
      · exact .refl

/-! ## Where a launch comes from -/

/-- A launch that has a process had it before, as long as none is started. -/
theorem launching_of_quiet (quiet : Quiet asked s s')
    (current' : s'.work = some (.launching order stage)) (process : stage.hasProcess) :
    ∃ before, s.work = some (.launching order before) ∧ before.hasProcess := by
  cases quiet with
  | outside s' core children work => exact ⟨stage, work ▸ current', process⟩
  | launchBegun | relaunched =>
    cases current'
    cases process
  | terminateBegun | terminateEnded => cases current'
  | launchEnded =>
    rw [work_endLaunch] at current'
    cases current'
  | entered work next current follows fits =>
    cases current'
    cases follows with
    | launching order same => exact ⟨_, current, same.trans process⟩
  | _ => exact ⟨stage, current', process⟩

theorem launching_of_quiets (quiets : Quiets asked s s')
    (current' : s'.work = some (.launching order stage)) (process : stage.hasProcess) :
    ∃ before, s.work = some (.launching order before) ∧ before.hasProcess := by
  induction quiets generalizing stage with
  | refl => exact ⟨stage, current', process⟩
  | tail _ last ih =>
    obtain ⟨between, current, process⟩ := launching_of_quiet last current' process
    exact ih current process

/-- **Where a launch comes from**: a launch that has a process was in progress before the move. -/
theorem Sound.launching_of_apply (sound : s.Sound)
    (current' : (s.apply move).work = some (.launching order stage)) (process : stage.hasProcess) :
    ∃ before, s.work = some (.launching order before) := by
  rcases sound.apply_cases move with
    quiets | ⟨order', pid, program, host, deadline, current, started⟩
  · obtain ⟨before, current, -⟩ := launching_of_quiets quiets current' process
    exact ⟨before, current⟩
  · rw [started] at current'
    cases current'
    exact ⟨_, current⟩

end System

/-! ## Whose watcher is known -/

/-- While a launch has a process and has still to make its watcher known. -/
def LaunchStage.isUnwatched : LaunchStage → Bool
  | .checking | .spawning | .returning => false
  | _ => true

theorem LaunchStage.hasProcess_of_isUnwatched {stage : LaunchStage}
    (unwatched : stage.isUnwatched) : stage.hasProcess := by
  cases stage <;> first | rfl | simp [isUnwatched] at unwatched

theorem LaunchStage.hasProcess_of_unwatched? {stage : LaunchStage} {buried : Bool}
    (unwatched : stage.unwatched? = some buried) : stage.hasProcess := by
  cases stage <;> first | rfl | simp [unwatched?] at unwatched

namespace System

variable {asked : Demand → Prop} {s s' : System} {order : LaunchOrder} {stage next : LaunchStage}
  {move : Move} {generation : Nat} {exit : ExitInfo}

/-- **The watcher of a live instance is known.** -/
def Known (s : System) : Prop := ∀ a, s.core.active = some a → a.watched ∨ a.phase.isTerminal

theorem Known.of_eq (known : s.Known) (active : s'.core.active = s.core.active) : s'.Known :=
  fun a current => known a (active ▸ current)

/-- A machine whose watcher is known, or that has come to an end, remains so. -/
theorem Known.map (known : s.Known) {change : Active → Active}
    (keeps : ∀ a, a.watched ∨ a.phase.isTerminal →
      (change a).watched ∨ (change a).phase.isTerminal)
    (active : s'.core.active = s.core.active.map change) : s'.Known := by
  intro a current
  rw [active] at current
  obtain ⟨b, before, rfl⟩ := Option.map_eq_some_iff.mp current
  exact keeps b (known b before)

/-- An event leaves what is known of a watcher, and an end. -/
theorem Known.transition (known : s.Known) (generation : Nat) (event : Event)
    (exit : Option ExitInfo) : (s.transition generation event exit).Known := by
  intro a current
  simp only [System.transition, Core.transition] at current
  cases active : s.core.active with
  | none =>
    simp only [active] at current
    cases current
  | some b =>
    simp only [active] at current
    split at current
    · obtain rfl := Option.some.inj current
      refine (known b active).imp_right fun terminal => ?_
      simpa [Phase.step_of_isTerminal terminal] using terminal
    · obtain rfl := Option.some.inj (current.symm.trans active)
      exact known a active

theorem Known.quiet (known : s.Known) (quiet : Quiet asked s s') : s'.Known := by
  cases quiet with
  | outside s' core => exact known.of_eq (by rw [core])
  | event generation event exit => exact known.transition generation event exit
  | attached generation =>
    refine known.map (fun a before => ?_) rfl
    split
    · exact .inl rfl
    · exact before
  | switched generation =>
    refine known.map (fun a before => ?_) rfl
    split <;> exact before
  | launchEnded => exact known.of_eq (by rw [core_endLaunch])
  | _ => exact known

theorem Known.quiets (known : s.Known) (quiets : Quiets asked s s') : s'.Known := by
  induction quiets with
  | refl => exact known
  | tail _ last ih => exact ih.quiet last

/-- When the latest instance has ended, nobody need know its watcher. -/
theorem Sound.known_of_hasEnded (sound : s.Sound) (ended : s.HasEnded) : s.Known := by
  obtain ⟨h, published, terminal⟩ := ended
  intro a active
  have phase := sound.coherent.phase
  simp only [published, active, Option.map_some, Option.some.injEq] at phase
  exact .inr (phase ▸ terminal)

/-- **An instance that has not become ready is shown as crashed** once its end is recorded. -/
theorem IsStartingUp.crashes (startingUp : s.IsStartingUp) (sound : s.Sound) {event : Event}
    (ends : event = .launchAborted ∨ ∃ success, event = .exited success)
    (exit : Option ExitInfo) :
    ∃ h, s.core.published = some h ∧ (s.transition s.core.launched event exit).core.published
      = some { h with phase := .crashed, exit := h.exit.or exit } := by
  obtain ⟨h, published, phase⟩ := startingUp
  have crashed : h.phase.step event = .crashed := by
    rcases phase with starting | crashed
    · rcases ends with rfl | ⟨success, rfl⟩ <;> rw [starting] <;> rfl
    · rw [crashed]
      rfl
  refine ⟨h, published, ?_⟩
  rw [← crashed]
  exact sound.coherent.published_transition published event exit

/-- **The watcher of a live instance is known**, unless a launch has yet to make it known. -/
def Attached (s : System) : Prop :=
  (∃ order stage, s.work = some (.launching order stage) ∧ stage.isUnwatched) ∨ s.Known

theorem Attached.apply (attached : s.Attached) (sound : s.Sound) (move : Move) :
    (s.apply move).Attached := by
  rcases attached with ⟨order, stage, current, unwatched⟩ | known
  · have fits := sound.fits _ current
    have ends {event : Event} (exit : ExitInfo) (startingUp : s.IsStartingUp)
        (ends : event = .launchAborted ∨ ∃ success, event = .exited success)
        (result : Except LaunchError Handle) :
        ((s.transition s.core.launched event (some exit)).endLaunch order result).HasEnded := by
      obtain ⟨h, -, crashed⟩ := startingUp.crashes sound ends (some exit)
      exact ⟨_, by rw [core_endLaunch]; exact crashed, rfl⟩
    cases apply_launching_cases current move with
    | aside steps => exact .inl ⟨order, stage, steps.aside.work.trans current, unwatched⟩
    | watch generation same =>
      exact .inl ⟨order, stage, by rw [same, (s.stopStands_watch generation).1, current], unwatched⟩
    | goes next after goes same =>
      rw [same]
      cases goes with
      | passed => cases unwatched
      | attached =>
        refine .inr fun a active => ?_
        obtain ⟨b, before, rfl⟩ := Option.map_eq_some_iff.mp active
        rw [if_pos (sound.coherent.active b before)]
        exact .inl rfl
      | _ => exact .inl ⟨order, _, rfl, rfl⟩
    | starts waits =>
      rw [waits] at unwatched
      cases unwatched
    | ends result after ending same =>
      have sound' : (s.apply move).Sound := sound.changes (sound.changes_apply move)
      refine .inr (sound'.known_of_hasEnded ?_)
      rw [same]
      cases ending with
      | refused | unstarted | ready => cases unwatched
      | died exit => exact ends exit fits.1 (.inr ⟨_, rfl⟩) _
      | late exit => exact ends exit fits.1 (.inl rfl) _
  · rcases sound.apply_cases move with
      quiets | ⟨order, pid, program, host, deadline, current, started⟩
    · exact .inr (known.quiets quiets)
    · rw [started]
      exact .inl ⟨order, _, rfl, rfl⟩

theorem Reachable.attached (reachable : s.Reachable) : s.Attached :=
  reachable.move_induction (fun _ _ _ => .inr (by rintro a ⟨⟩))
    fun reached attached move => attached.apply reached.sound move

/-- Who has the latest process to himself is a launch. -/
theorem launching_of_unwatched {buried : Bool} (unwatched : Work.unwatched? s.work = some buried) :
    ∃ order stage, s.work = some (.launching order stage) ∧ stage.unwatched? = some buried := by
  cases current : s.work with
  | none => simp [current, Work.unwatched?] at unwatched
  | some work =>
    cases work with
    | terminating graceful stage => simp [current, Work.unwatched?] at unwatched
    | launching order stage => exact ⟨order, stage, rfl, by rwa [current] at unwatched⟩

/-- **To look at the instance changes nothing** when no launch has it in hand: its end is recorded,
or somebody else will record it. -/
theorem Reachable.status_eq_self (reachable : s.Reachable)
    (noProcess : ∀ order stage, s.work = some (.launching order stage) →
      stage.hasProcess = false) : s.status.2 = s := by
  have sound := reachable.sound
  rcases s.status_cases with
    ⟨-, same⟩ | ⟨h, published, ⟨-, same⟩ | ⟨live, -, ⟨lost, -⟩ | ⟨-, same⟩⟩⟩
  · rw [same]
  · rw [same]
  · -- Its watcher is not lost: it is known, and has still something to do.
    exfalso
    have latest := sound.coherent.published h published
    have pos : 0 < s.core.launched := sound.coherent.isSome.mp (by rw [published]; rfl)
    have notEnded : ¬s.HasEnded := by
      rintro ⟨h', published', terminal⟩
      obtain rfl : h = h' := Option.some.inj (published.symm.trans published')
      simp [live] at terminal
    have stands : Work.unwatched? s.work = none := by
      refine Option.eq_none_iff_forall_ne_some.mpr fun buried unwatched => ?_
      obtain ⟨order, stage, current, unwatched⟩ := launching_of_unwatched unwatched
      have process := LaunchStage.hasProcess_of_unwatched? unwatched
      rw [noProcess order stage current] at process
      cases process
    have known : s.Known := by
      refine reachable.attached.resolve_left ?_
      rintro ⟨order, stage, current, unwatched⟩
      have process := LaunchStage.hasProcess_of_isUnwatched unwatched
      rw [noProcess order stage current] at process
      cases process
    obtain ⟨c, member, number⟩ := sound.exists_child pos (Nat.le_refl _)
    have active := (reachable.attended.watched stands c member number).resolve_right notEnded
    have found : s.child? s.core.launched = some c :=
      sound.child?_eq_some_iff.mpr ⟨member, number⟩
    obtain ⟨a, h', machine, published', phase⟩ := sound.coherent.exists_of_pos pos
    obtain rfl : h = h' := Option.some.inj (published.symm.trans published')
    have watched : a.watched := (known a machine).resolve_right (by simp [← phase, live])
    have number' := sound.coherent.active a machine
    simp only [watcherLost, Core.isWatched, machine, found, Option.any_some, Option.all_some,
      number', latest, watched, beq_self_eq_true, Bool.and_self, Bool.not_true, Bool.false_or,
      beq_iff_eq] at lost
    rw [lost] at active
    cases active
  · rw [same]

end System

/-! ## Who learns of the end -/

/-- The end of its process that a launch has seen and is about to record. -/
def LaunchStage.exit? : LaunchStage → Option ExitInfo
  | .burying exit | .aborting exit => some exit
  | _ => none

namespace System

variable {asked : Demand → Prop} {s s' : System} {order : LaunchOrder} {stage next : LaunchStage}
  {move : Move} {generation : Nat} {exit : ExitInfo}

/-- **A launch holds the end of its process.**  No exit is published, and the process has ended as
the launch has seen. -/
structure HoldsEnd (s : System) (stage : LaunchStage) : Prop where
  recorded : s.recordedExit? = none
  ended : ∀ exit, stage.exit? = some exit → s.EndedWith s.core.launched exit

theorem HoldsEnd.untold (holds : s.HoldsEnd stage) (untold : s.Untold s') : s'.HoldsEnd stage where
  recorded := untold.recorded.trans holds.recorded
  ended := by
    intro exit seen
    rw [untold.launched]
    exact untold.ended _ exit (holds.ended exit seen)

/-- Who has waited for the end of a process finds it ended so. -/
theorem Sound.endedWith_reap (sound : s.Sound)
    (ended : (s.child? generation).map Child.life = some (.ended exit)) :
    (s.updateChild generation Child.reap).EndedWith generation exit := by
  obtain ⟨c, found, life⟩ := Option.map_eq_some_iff.mp ended
  obtain ⟨member, number⟩ := sound.child?_eq_some_iff.mp found
  refine ⟨c.reap, List.mem_map.mpr ⟨c, member, if_pos number⟩, number, ?_⟩
  rw [Child.reap, life]
  rfl

/-- Waiting for a process again tells nothing new. -/
theorem untold_reap (s : System) (generation : Nat) :
    s.Untold (s.updateChild generation Child.reap) :=
  .updateChild fun c _ _ => ⟨rfl, fun exit life => by rw [Child.reap, life]; rfl⟩

/-- What a launch does on its way tells nothing of an end. -/
theorem untold_of_goes (goes : stage.Goes s move next s') : s.Untold s' := by
  cases goes with
  | passed => exact (sidesteps_status s).untold
  | runs | reached | missed | rests | woke => exact .refl s
  | died | culled => exact untold_reap s _
  | condemned | watched => exact .updateChild fun c _ _ => ⟨rfl, fun exit life => life⟩
  | marked => exact .transition ..
  | attached => exact .of_eq rfl rfl rfl

/-- A launch that has its process to itself goes on to hold its end. -/
theorem HoldsEnd.goes (holds : s.HoldsEnd stage) (sound : s.Sound)
    (goes : stage.Goes s move next s') : s'.HoldsEnd next where
  recorded := (untold_of_goes goes).recorded.trans holds.recorded
  ended := by
    intro exit seen
    cases goes with
    | died deadline exit ended | culled exit ended =>
      obtain rfl := Option.some.inj seen
      exact sound.endedWith_reap ended
    | _ => cases seen

/-- No watcher learns of the end while a launch has its process to itself. -/
theorem Attended.untold_watch (attended : s.Attended) (sound : s.Sound) {buried : Bool}
    (unwatched : Work.unwatched? s.work = some buried) (generation : Nat) :
    s.Untold (s.watch generation) := by
  unfold System.watch
  cases found : s.child? generation with
  | none => exact .refl s
  | some c =>
    obtain ⟨member, number⟩ := sound.child?_eq_some_iff.mp found
    by_cases latest : generation = s.core.launched
    · have absent := (attended.unwatched buried unwatched c member (number.trans latest)).1
      simp only [absent]
      exact .refl s
    · -- Whatever a watcher of an earlier process does, it is not about what is published.
      have sees (exit : ExitInfo) : s.Untold
          (s.updateChild generation fun c => { c.reap with watcher := .holding exit }) :=
        .updateChild fun c _ _ => ⟨rfl, fun exit life => by rw [Child.reap, life]; rfl⟩
      have stays (watcher : Watcher) {s : System} : s.Untold
          (s.updateChild generation fun c => { c with watcher }) :=
        .updateChild fun c _ _ => ⟨rfl, fun exit life => life⟩
      simp only
      split
      · exact sees _
      · exact sees _
      · split
        · refine .trans (.updateChild fun c _ _ => ?_) (stays .killing)
          exact ⟨rfl, fun exit life => life⟩
        · exact .refl s
      · rw [sound.transition_of_ne latest]
        exact stays .finished
      · exact .refl s

/-- **A launch that has its process to itself holds its end.** -/
def InHand (s : System) : Prop :=
  ∀ order stage buried, s.work = some (.launching order stage) →
    stage.unwatched? = some buried → s.HoldsEnd stage

theorem InHand.apply (inHand : s.InHand) (reachable : s.Reachable) (move : Move) :
    (s.apply move).InHand := by
  intro order stage buried current' unwatched
  have sound := reachable.sound
  obtain ⟨before, current⟩ :=
    sound.launching_of_apply current' (LaunchStage.hasProcess_of_unwatched? unwatched)
  -- A launch that stands where it did still holds what it held.
  have stands (work : (s.apply move).work = s.work)
      (untold : s.HoldsEnd stage → s.Untold (s.apply move)) : (s.apply move).HoldsEnd stage := by
    rw [current', current] at work
    cases work
    have holds := inHand order stage buried current unwatched
    exact holds.untold (untold holds)
  cases apply_launching_cases current move with
  | aside steps => exact stands steps.aside.work fun _ => steps.untold
  | watch generation same =>
    have work : (s.apply move).work = s.work := by rw [same, (s.stopStands_watch generation).1]
    refine stands work fun _ => ?_
    rw [same]
    exact reachable.attended.untold_watch sound (by rw [← work, current']; exact unwatched) _
  | goes next after goes same =>
    rw [same] at current' ⊢
    cases current'
    obtain ⟨buried', unwatched'⟩ : ∃ buried', before.unwatched? = some buried' := by
      cases goes <;> first | exact ⟨_, rfl⟩ | cases unwatched
    have holds := (inHand order before buried' current unwatched').goes sound goes
    exact holds.untold (.of_eq rfl rfl rfl)
  | starts waits pid program host deadline same =>
    rw [same] at current' ⊢
    cases current'
    exact ⟨rfl, by rintro exit ⟨⟩⟩
  | ends result after ends same =>
    rw [same, work_endLaunch] at current'
    cases current'

theorem Reachable.inHand (reachable : s.Reachable) : s.InHand :=
  reachable.move_induction (by rintro _ _ _ order stage buried ⟨⟩)
    fun reached inHand move => inHand.apply reached move

/-! ## What is launched -/

end System

/-- **An instance is what was ordered.** -/
structure LaunchOrder.Makes (order : LaunchOrder) (h : Handle) : Prop where
  command : h.command = order.command
  configuration : h.configuration = order.configuration
  restarts : h.restarts = order.restarts

namespace System

variable {s s' : System}

/-- **The instance of a launch is what was ordered.** -/
def Obeys (s : System) : Prop :=
  ∀ order stage h, s.work = some (.launching order stage) → stage.hasProcess →
    s.core.published = some h → order.Makes h

theorem Obeys.change (obeys : s.Obeys) (sound : s.Sound) (change : Change s s') : s'.Obeys := by
  intro order stage h current process published
  cases change with
  | started order pid program host deadline =>
    cases current
    cases published
    exact ⟨rfl, rfl, rfl⟩
  | quiet quiet =>
    obtain ⟨before, current, process⟩ := launching_of_quiet quiet current process
    rcases sound.published_quiet quiet with same | ⟨h', event, exit, shown, changed⟩
    · exact obeys order before h current process (same ▸ published)
    · obtain rfl := Option.some.inj (published.symm.trans changed)
      obtain ⟨command, configuration, restarts⟩ := obeys order before h' current process shown
      exact ⟨command, configuration, restarts⟩

theorem Reachable.obeys (reachable : s.Reachable) : s.Obeys :=
  reachable.induction (by rintro _ _ _ order stage h ⟨⟩)
    fun sound obeys change => obeys.change sound change

end System

end GuestSupervisor.Supervisor
