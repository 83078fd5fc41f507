import GuestSupervisor.Proofs.Supervisor.Moves

/-!
# One process at a time

Processes follow one another: the next is started only when every one before it has
ended and was waited for, and it takes the next generation.  Launches that start
nothing take none, so the generations are as many as the launches that were answered
with a process, and one more while such a launch is still underway.

## Main Definitions

* `Answer.tellsOfProcess` — whether a caller was told of a process that was started.
* `Work.underway` — how many launches with a process have not been answered.
* `System.Accounted` — every generation belongs to one launch.

## Main Statements

* `System.one_process_at_a_time` — the three facts, of every run.
-/

namespace GuestSupervisor.Supervisor

open Instance

/-- Whether an answer tells of a process that was started. -/
def Answer.tellsOfProcess : Answer → Bool
  | .launched _ result => startedOne result
  | _ => false

/-- How many launches with a process are in progress, which is at most one. -/
def Work.underway : Option Work → Nat
  | some (.launching _ stage) => stage.hasProcess.toNat
  | _ => 0

theorem Work.Follows.underway_eq {work next : Work} (follows : work.Follows next) :
    Work.underway (some next) = Work.underway (some work) := by
  cases follows with
  | launching order same => simp only [Work.underway, same]
  | terminating graceful stage next => rfl

namespace System

variable {asked : Demand → Prop} {s s' : System}

/-- **Every generation belongs to one launch**, which was answered with its process or
is still in progress. -/
def Accounted (s : System) : Prop :=
  s.core.launched = s.answers.countP Answer.tellsOfProcess + Work.underway s.work

/-! ## Accounts -/

theorem accounted_start (options : SupervisorOptions) (host : Host) (now : Nat) :
    (start options host now).Accounted := rfl

theorem Accounted.quiet (accounted : s.Accounted) (quiet : Quiet asked s s') : s'.Accounted := by
  have launched := launched_quiet quiet
  unfold Accounted at accounted ⊢
  rw [launched, accounted]
  cases quiet with
  | outside s' core children work restarts answers => rw [answers, work]
  | launchBegun order idle | terminateBegun graceful idle =>
    simp only [idle, enter]
    rfl
  | entered work next current follows fits =>
    simp only [current, enter, follows.underway_eq]
  | launchEnded order stage result current accounts =>
    rw [answers_endLaunch, work_endLaunch, current, List.countP_cons]
    -- What was underway is now answered for.
    have tells : (Answer.launched order.origin result).tellsOfProcess = stage.hasProcess := accounts
    cases known : stage.hasProcess <;> simp [tells, known, Work.underway]
  | terminateEnded graceful stage result current =>
    simp [answer, current, Work.underway, Answer.tellsOfProcess]
  | relaunched task crashed current queued idle =>
    simp only [idle]
    rfl
  | dispatched id result => simp [endDispatch, Answer.tellsOfProcess]
  | _ => rfl

/-- **Every change keeps the account.** -/
theorem Accounted.change (accounted : s.Accounted) (change : Change s s') : s'.Accounted := by
  cases change with
  | quiet quiet => exact accounted.quiet quiet
  | started order pid program host deadline current =>
    unfold Accounted at accounted ⊢
    simp only [started, Core.install, accounted, current]
    rfl

/-! ## Processes follow one another -/

/-- Sound systems with one counter have started the same processes. -/
theorem Sound.generations_eq (sound : s.Sound) (sound' : s'.Sound)
    (launched : s'.core.launched = s.core.launched) :
    s'.children.map Child.generation = s.children.map Child.generation := by
  rw [sound.numbered, sound'.numbered, launched]

/-- **What a move does to the processes**: nothing new is started, or one process is,
when all before it are gone, and it takes the next generation. -/
theorem Sound.apply_children_cases (sound : s.Sound) (move : Move) :
    (s.apply move).children.map Child.generation = s.children.map Child.generation ∨
      ∃ c, (s.apply move).children = c :: s.children ∧ c.life = .alive ∧
        c.generation = s.children.length + 1 ∧
        (s.apply move).core.published.map Handle.generation = some c.generation ∧
        ∀ d ∈ s.children, d.life.isReaped := by
  rcases sound.apply_cases move with
    quiets | ⟨order, pid, program, host, deadline, current, started⟩
  · exact Or.inl (sound.generations_eq (sound.quiets quiets) (launched_quiets quiets))
  · -- The check before this stage has found no live instance, and the stage remembers it.
    have gone : s.isGone s.core.launched := sound.fits _ current
    rw [started]
    refine Or.inr ⟨_, rfl, rfl, by rw [sound.length_children], rfl, fun d member => ?_⟩
    exact sound.isReaped_of_isGone gone member

/-- **One process at a time.**  At any moment of any run

* at most one process has not ended and been waited for;
* whatever happens next starts no process, or one: then all before it are gone, and it
  is the `k`-th and takes the generation `k`;
* the generations taken are as many as the launches that were answered with a process,
  so that being told of a live instance or of a process that could not be started
  takes none; only a launch that waits for its process is still to be counted. -/
theorem one_process_at_a_time (options : SupervisorOptions) (host : Host) (now : Nat)
    (moves : List Move) :
    let s := (start options host now).run moves
    (∀ c ∈ s.children, ∀ d ∈ s.children, ¬c.life.isReaped → ¬d.life.isReaped → c = d) ∧
    (∀ move,
      (s.apply move).children.map Child.generation = s.children.map Child.generation ∨
        ∃ c, (s.apply move).children = c :: s.children ∧ c.life = .alive ∧
          c.generation = s.children.length + 1 ∧
          (s.apply move).core.published.map Handle.generation = some c.generation ∧
          ∀ d ∈ s.children, d.life.isReaped) ∧
    s.children.length
      = s.answers.countP Answer.tellsOfProcess + Work.underway s.work := by
  intro s
  have reachable : s.Reachable := ⟨options, host, now, moves, rfl⟩
  have sound := reachable.sound
  have accounted : s.Accounted :=
    reachable.induction accounted_start fun _ accounted change => accounted.change change
  refine ⟨?_, sound.apply_children_cases, ?_⟩
  · intro c memC d memD runsC runsD
    have latest : ∀ e ∈ s.children, ¬e.life.isReaped → e.generation = s.core.launched := by
      intro e member runs
      by_contra older
      exact runs (sound.earlier e member older)
    exact sound.eq_of_generation_eq memC memD
      ((latest c memC runsC).trans (latest d memD runsD).symm)
  · rw [sound.length_children]
    exact accounted

end System

end GuestSupervisor.Supervisor
