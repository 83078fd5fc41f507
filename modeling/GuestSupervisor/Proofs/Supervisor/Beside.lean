import GuestSupervisor.Proofs.Supervisor.Moves

/-!
# Beside the operation in progress

Most moves are made neither by a launch or a stop nor by a watcher.  Taken apart, they are made of
three kinds of steps: they leave machine and processes alone, they change what a process does
without anybody waiting for its end, or they feed the machine an event that brings no exit.  So
nothing that is known of the end of a process is lost by them, and nothing is added to it.

## Main Definitions

* `System.Sidestep` — one such step.
* `System.Aside` — the operation stands where it did and every process is watched as before.
* `System.Untold` — nothing is told of the end of a process.

## Main Statements

* `System.sidesteps_apply` — who makes a move beside the operation makes sidesteps.
-/

namespace GuestSupervisor.Supervisor

open Instance Monitor

/-- Whether a move is made neither by an operation nor by a watcher, and begins none. -/
def Move.isAside : Move → Bool
  | .launch _ _ | .relaunch _ | .terminate _ | .spawn _ | .probed _ | .quitTold | .proceed
  | .watch _ | .restart => false
  | _ => true

/-- Whether an answer ends a launch or a stop. -/
def Answer.endsWork : Answer → Bool
  | .dispatched _ _ => false
  | _ => true

/-- When no operation is answered, the latest answer is to no operation. -/
theorem Answer.ne_cons_of_endsWork {answer : Answer} (ends : answer.endsWork)
    {answers answers' : List Answer}
    (same : answers'.filter endsWork = answers.filter endsWork) : answers' ≠ answer :: answers := by
  rintro rfl
  have lengths := congrArg List.length same
  rw [List.filter_cons_of_pos ends, List.length_cons] at lengths
  omega

/-- Nobody has waited for the end of the process, and its watcher is where it was. -/
structure Child.SameWatch (c c' : Child) : Prop where
  generation : c'.generation = c.generation
  watcher : c'.watcher = c.watcher
  reaped : c'.life.isReaped = c.life.isReaped

/-- **A process is left to its watcher.**  Nobody has waited for its end, and the end of one that
was waited for is what it was. -/
structure Child.KeepsWatch (c c' : Child) : Prop extends c.SameWatch c' where
  exit : ∀ exit, c.life = .reaped exit → c'.life = .reaped exit

/-- What leaves life and watcher of a process alone leaves it to its watcher. -/
theorem Child.KeepsWatch.of_eq {c c' : Child} (generation : c'.generation = c.generation)
    (watcher : c'.watcher = c.watcher) (life : c'.life = c.life) : c.KeepsWatch c' :=
  ⟨⟨generation, watcher, by rw [life]⟩, fun exit reaped => life.trans reaped⟩

theorem Child.keepsWatch_finish (c : Child) (exit : ExitInfo) : c.KeepsWatch (c.finish exit) where
  generation := rfl
  watcher := rfl
  reaped := isReaped_finish exit c.life
  exit := by
    intro other reaped
    simp [finish, reaped, Life.finish]

namespace System

variable {s s' s'' : System} {generation : Nat}

/-! ## Sidesteps -/

/-- **One step beside the operation in progress.** -/
inductive Sidestep (s : System) : System → Prop
  /-- Clock, files, the restart task and the commands on their way may do anything. -/
  | outside (s' : System) (core : s'.core = s.core) (children : s'.children = s.children)
      (work : s'.work = s.work)
      (answers : s'.answers.filter Answer.endsWork = s.answers.filter Answer.endsWork) :
      Sidestep s s'
  | child (generation : Nat) (change : Child → Child)
      (keeps : ∀ c : Child, c.KeepsWatch (change c)) :
      Sidestep s (s.updateChild generation change)
  | event (generation : Nat) (event : Event) : Sidestep s (s.transition generation event none)

/-- Any number of such steps. -/
abbrev Sidesteps : System → System → Prop := Relation.ReflTransGen Sidestep

theorem sidesteps_of_eq (core : s'.core = s.core) (children : s'.children = s.children)
    (work : s'.work = s.work) (answers : s'.answers = s.answers) : s.Sidesteps s' :=
  .single (.outside s' core children work (by rw [answers]))

theorem sidesteps_status (s : System) : s.Sidesteps s.status.2 := by
  rcases s.status_cases with ⟨-, same⟩ | ⟨h, -, ⟨-, same⟩ | ⟨-, -, ⟨-, recorded⟩ | ⟨-, same⟩⟩⟩
  · rw [same]
  · rw [same]
  · rw [recorded]
    exact .single (.event _ _)
  · rw [same]

theorem sidestep_endDispatch (s : System) (id : Nat) (result : Except ChannelError String) :
    s.Sidestep (s.endDispatch id result) :=
  .outside _ rfl rfl rfl (by simp [endDispatch, Answer.endsWork])

theorem sidesteps_beginDispatch (s : System) (expected : Option Nat) (command : ControlCommand) :
    s.Sidesteps (s.beginDispatch expected command) := by
  have counted : s.Sidesteps { s with dispatched := s.dispatched + 1 } :=
    sidesteps_of_eq rfl rfl rfl rfl
  refine (counted.trans (sidesteps_status _)).trans ?_
  unfold beginDispatch
  simp only
  split
  · exact .single (sidestep_endDispatch ..)
  · exact .single (sidestep_endDispatch ..)
  · exact sidesteps_of_eq rfl rfl rfl rfl

theorem sidesteps_advance (s : System) (id : Nat) (stage : DispatchStage) :
    s.Sidesteps (s.advance id stage) := sidesteps_of_eq rfl rfl rfl rfl

theorem sidesteps_execute (s : System) (id : Nat) : s.Sidesteps (s.execute id) := by
  unfold execute
  split
  · split
    · split
      · refine .head (.child _ _ ?_) (sidesteps_advance ..)
        exact fun _ => .of_eq rfl rfl rfl
      · exact .refl
    · exact .refl
  · exact .refl

theorem sidesteps_acknowledge (s : System) (id : Nat) : s.Sidesteps (s.acknowledge id) := by
  unfold acknowledge
  split
  · split
    · split
      · exact .head (.event _ _) (.single (sidestep_endDispatch ..))
      · exact .single (sidestep_endDispatch ..)
    · exact .refl
  · exact .refl

theorem sidesteps_listen (s : System) (generation : Nat) (endpoint : String) :
    s.Sidesteps (s.listen generation endpoint) := by
  unfold listen
  split
  · simp only
    split
    · exact sidesteps_of_eq rfl rfl rfl rfl
    · rename_i files _
      refine .head (.outside { s with host := { s.host with files } } rfl rfl rfl rfl) ?_
      exact .single (.child _ _ fun _ => .of_eq rfl rfl rfl)
  · exact .refl

/-- **Whatever is done by neither an operation nor a watcher is done beside.** -/
theorem sidesteps_apply {move : Move} (aside : move.isAside) : s.Sidesteps (s.apply move) := by
  cases move with
  | launch | relaunch | terminate | spawn | probed | quitTold | proceed | watch | restart =>
    simp [Move.isAside] at aside
  | pass | host | disableRestarts => exact sidesteps_of_eq rfl rfl rfl rfl
  | status => exact s.sidesteps_status
  | dispatch expected command => exact s.sidesteps_beginDispatch expected command
  | enableRestarts =>
    simp only [System.apply, enableRestarts]
    split
    · exact .refl
    · split
      · exact .refl
      · exact sidesteps_of_eq rfl rfl rfl rfl
  | listen generation endpoint => exact s.sidesteps_listen generation endpoint
  | exit generation exit => exact .single (.child _ _ fun c => c.keepsWatch_finish exit)
  | connect id =>
    simp only [System.apply, connect]
    split
    · split
      · exact sidesteps_advance ..
      · exact .refl
    · exact .refl
  | execute id => exact s.sidesteps_execute id
  | reply id text =>
    simp only [System.apply, reply]
    split
    · exact sidesteps_advance ..
    · exact .refl
  | fail id error =>
    simp only [System.apply, fail]
    split
    · exact .refl
    · exact .refl
    · exact .single (sidestep_endDispatch ..)
  | acknowledge id => exact s.sidesteps_acknowledge id

/-! ## The operation and the watchers -/

/-- Every process is watched as it was before. -/
def WatchedAlike (s s' : System) : Prop := ∀ c' ∈ s'.children, ∃ c ∈ s.children, c.SameWatch c'

namespace WatchedAlike

theorem of_eq (children : s'.children = s.children) : s.WatchedAlike s' :=
  fun c member => ⟨c, children ▸ member, rfl, rfl, rfl⟩

theorem trans (first : s.WatchedAlike s') (second : s'.WatchedAlike s'') : s.WatchedAlike s'' := by
  intro c'' member
  obtain ⟨c', member', same'⟩ := second c'' member
  obtain ⟨c, member, same⟩ := first c' member'
  exact ⟨c, member, same'.generation.trans same.generation, same'.watcher.trans same.watcher,
    same'.reaped.trans same.reaped⟩

theorem updateChild {change : Child → Child} (same : ∀ c : Child, c.SameWatch (change c)) :
    s.WatchedAlike (s.updateChild generation change) := by
  intro c' member
  obtain ⟨c, memC, rfl⟩ := List.mem_map.mp member
  refine ⟨c, memC, ?_⟩
  split
  · exact same c
  · exact ⟨rfl, rfl, rfl⟩

theorem signal : s.WatchedAlike (s.signal generation) := updateChild fun _ => ⟨rfl, rfl, rfl⟩

end WatchedAlike

/-- **Something happens beside the operation in progress**: the operation stands where it
did, no operation is answered and every process is watched as before. -/
structure Aside (s s' : System) : Prop where
  work : s'.work = s.work
  answers : s'.answers.filter Answer.endsWork = s.answers.filter Answer.endsWork
  watched : s.WatchedAlike s'

theorem Sidesteps.aside (steps : s.Sidesteps s') : s.Aside s' := by
  induction steps with
  | refl => exact ⟨rfl, rfl, .of_eq rfl⟩
  | tail _ last before =>
    cases last with
    | outside s' core children work answers =>
      exact ⟨work.trans before.work, answers.trans before.answers,
        before.watched.trans (.of_eq children)⟩
    | child generation change keeps =>
      exact ⟨before.work, before.answers,
        before.watched.trans (.updateChild fun c => (keeps c).toSameWatch)⟩
    | event generation event => exact ⟨before.work, before.answers, before.watched⟩

/-- Whatever is done by neither an operation nor a watcher happens beside. -/
theorem Aside.apply {move : Move} (aside : move.isAside) : s.Aside (s.apply move) :=
  (sidesteps_apply aside).aside

/-! ## What is told of an end -/

/-- The exit that is published of the latest instance. -/
def recordedExit? (s : System) : Option ExitInfo := s.core.published.bind Handle.exit

/-- **The process of an instance has ended so**, and somebody has waited for it. -/
def EndedWith (s : System) (generation : Nat) (exit : ExitInfo) : Prop :=
  ∃ c ∈ s.children, c.generation = generation ∧ c.life = .reaped exit

/-- **Nothing is told of the end of a process**: no instance is launched, the exit that is published
is what it was, and so is the end of a process that was waited for. -/
structure Untold (s s' : System) : Prop where
  launched : s'.core.launched = s.core.launched
  recorded : s'.recordedExit? = s.recordedExit?
  ended : ∀ generation exit, s.EndedWith generation exit → s'.EndedWith generation exit

theorem Untold.refl (s : System) : s.Untold s := ⟨rfl, rfl, fun _ _ => id⟩

theorem Untold.trans (first : s.Untold s') (second : s'.Untold s'') : s.Untold s'' where
  launched := second.launched.trans first.launched
  recorded := second.recorded.trans first.recorded
  ended := fun generation exit => second.ended generation exit ∘ first.ended generation exit

theorem Untold.of_eq (launched : s'.core.launched = s.core.launched)
    (published : s'.core.published = s.core.published) (children : s'.children = s.children) :
    s.Untold s' where
  launched := launched
  recorded := by rw [recordedExit?, published, recordedExit?]
  ended := by
    rintro generation exit ⟨c, member, same⟩
    exact ⟨c, children ▸ member, same⟩

/-- Who has ended stays so in a process that keeps its number and its end. -/
theorem Untold.updateChild {change : Child → Child}
    (keeps : ∀ c ∈ s.children, c.generation = generation → (change c).generation = c.generation ∧
      ∀ exit, c.life = .reaped exit → (change c).life = .reaped exit) :
    s.Untold (s.updateChild generation change) where
  launched := rfl
  recorded := rfl
  ended := by
    rintro other exit ⟨c, member, rfl, life⟩
    refine ⟨_, List.mem_map.mpr ⟨c, member, rfl⟩, ?_⟩
    split
    · rename_i here
      exact ⟨(keeps c member here).1, (keeps c member here).2 exit life⟩
    · exact ⟨rfl, life⟩

theorem Untold.transition (s : System) (generation : Nat) (event : Event) :
    s.Untold (s.transition generation event none) where
  launched := Core.launched_transition
  recorded := by
    simp only [recordedExit?, System.transition, Core.transition]
    cases s.core.active with
    | none => rfl
    | some a =>
      simp only
      split
      · cases published : s.core.published with
        | none => rfl
        | some h =>
          simp only [Core.republish, Option.map_some, Option.bind_some]
          split <;> simp
      · rfl
  ended := fun _ _ => id

theorem Sidesteps.untold (steps : s.Sidesteps s') : s.Untold s' := by
  induction steps with
  | refl => exact .refl s
  | tail _ last before =>
    refine before.trans ?_
    cases last with
    | outside s' core children work answers => exact .of_eq (by rw [core]) (by rw [core]) children
    | child generation change keeps =>
      exact .updateChild fun c _ _ => ⟨(keeps c).generation, (keeps c).exit⟩
    | event generation event => exact .transition _ generation event

end System

end GuestSupervisor.Supervisor
