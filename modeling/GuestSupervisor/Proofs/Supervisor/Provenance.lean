import GuestSupervisor.Proofs.Supervisor.Coherence
import GuestSupervisor.Proofs.Supervisor.Launched
import Mathlib.Data.List.Induction
import Mathlib.Tactic.SplitIfs

/-!
# Where an instance comes from

What an instance was launched with is written into its handle at one moment, when its process is
started, and it is never written again.  So two handles of one instance tell of the same launch,
whatever happened between them, and every handle leads back to the moment of its launch.

## Main Definitions

* `Handle.SameLaunch` — two handles tell of one launch.
* `System.StartedBy` — the moment of a run at which an instance was launched.

## Main Statements

* `System.Sound.status_fst_cases` — what is shown, and when it is shown as ended.
* `System.Sound.isLive_iff_exists_child` — an instance is shown as live while its process is there.
* `System.Sound.exists_startedBy` — every instance was launched at some moment.
* `System.Sound.sameLaunch_of_run` — a later handle of the same instance tells of the same launch.
* `System.Sound.sameLaunch_of_shown` — so does what is shown of it later.
-/

namespace GuestSupervisor.Supervisor

open Instance

/-- **Two handles tell of one launch**: they differ at most in how far the instance has come. -/
structure Handle.SameLaunch (h h' : Handle) : Prop where
  generation : h'.generation = h.generation
  pid : h'.pid = h.pid
  startedAt : h'.startedAt = h.startedAt
  restarts : h'.restarts = h.restarts
  configuration : h'.configuration = h.configuration
  command : h'.command = h.command

namespace Handle.SameLaunch

@[refl] theorem refl (h : Handle) : h.SameLaunch h := ⟨rfl, rfl, rfl, rfl, rfl, rfl⟩

theorem trans {h h' h'' : Handle} (first : h.SameLaunch h') (second : h'.SameLaunch h'') :
    h.SameLaunch h'' where
  generation := second.generation.trans first.generation
  pid := second.pid.trans first.pid
  startedAt := second.startedAt.trans first.startedAt
  restarts := second.restarts.trans first.restarts
  configuration := second.configuration.trans first.configuration
  command := second.command.trans first.command

theorem symm {h h' : Handle} (same : h.SameLaunch h') : h'.SameLaunch h :=
  ⟨same.generation.symm, same.pid.symm, same.startedAt.symm, same.restarts.symm,
    same.configuration.symm, same.command.symm⟩

end Handle.SameLaunch

namespace System

variable {s s' : System} {h h' : Handle} {moves : List Move}

/-! ## One launch -/

theorem Sound.sameLaunch_of_quiets {asked : Demand → Prop} (sound : s.Sound)
    (quiets : Quiets asked s s') (published : s'.core.published = some h') :
    ∃ h, s.core.published = some h ∧ h.SameLaunch h' := by
  induction quiets generalizing h' with
  | refl => exact ⟨h', published, .refl h'⟩
  | tail earlier last ih =>
    rcases (sound.quiets earlier).published_quiet last with
      same | ⟨between, event, exit, shown, changed⟩
    · exact ih (same ▸ published)
    · obtain rfl := Option.some.inj (published.symm.trans changed)
      obtain ⟨h, before, same⟩ := ih shown
      exact ⟨h, before, same.trans ⟨rfl, rfl, rfl, rfl, rfl, rfl⟩⟩

/-- **What is shown.**  Once there was a launch, a handle of it is shown, as ended exactly if the
process is gone. -/
theorem Sound.status_fst_cases (sound : s.Sound) :
    s.core.published = none ∧ s.status.1 = none
      ∨ ∃ h h', s.core.published = some h ∧ s.status.1 = some h' ∧ h.SameLaunch h'
        ∧ (h'.phase.isTerminal ↔ s.isGone s.core.launched) := by
  rcases s.status_cases with ⟨published, same⟩ | ⟨h, published, shown⟩
  · exact Or.inl ⟨published, by rw [same]⟩
  · have latest := sound.coherent.published h published
    rw [← latest]
    rcases shown with ⟨reason, same⟩ | ⟨-, gone, ⟨-, same⟩ | ⟨-, same⟩⟩
    · have ended := sound.ended h published
      refine Or.inr ⟨h, h, published, by rw [same], .refl h, fun terminal => ?_, fun gone => ?_⟩
      · exact latest ▸ ended terminal
      · exact reason.resolve_right (by simp [gone])
    · -- Nobody else will record the end, so it is recorded by looking.
      have recorded := sound.coherent.published_transition published (.exited false) none
      rw [← latest] at recorded
      refine Or.inr ⟨h, _, published, (congrArg Prod.fst same).trans recorded,
        ⟨rfl, rfl, rfl, rfl, rfl, rfl⟩, fun _ => gone, fun _ => ?_⟩
      exact isTerminal_step_exited h.phase false
    · refine Or.inr ⟨h, _, published, congrArg Prod.fst same, ⟨rfl, rfl, rfl, rfl, rfl, rfl⟩,
        fun _ => gone, fun _ => ?_⟩
      simp only
      split <;> rfl

/-- **What is shown tells of the launch that is published.** -/
theorem Sound.sameLaunch_of_status (sound : s.Sound) (shown : s.status.1 = some h') :
    ∃ h, s.core.published = some h ∧ h.SameLaunch h' := by
  rcases sound.status_fst_cases with ⟨-, none⟩ | ⟨h, shown', published, same, launch, -⟩
  · rw [none] at shown
    cases shown
  · obtain rfl := Option.some.inj (shown.symm.trans same)
    exact ⟨h, published, launch⟩

/-- Something is shown as soon as there was a launch. -/
theorem Sound.status_eq_none_iff (sound : s.Sound) :
    s.status.1 = none ↔ s.core.launched = 0 := by
  have isSome := sound.coherent.isSome
  rcases sound.status_fst_cases with ⟨published, same⟩ | ⟨h, h', published, same, -⟩
  · rw [same]
    simp only [published, Option.isSome_none, Bool.false_eq_true, false_iff] at isSome
    simp only [true_iff]
    omega
  · rw [same]
    simp only [published, Option.isSome_some, true_iff] at isSome
    simp only [reduceCtorEq, false_iff]
    omega

/-- **An instance is shown as live exactly if its process is there**: it has not ended and been
waited for. -/
theorem Sound.isLive_iff_exists_child (sound : s.Sound) :
    (∃ h, s.status.1 = some h ∧ h.phase.isTerminal = false)
      ↔ ∃ c ∈ s.children, c.generation = s.core.launched ∧ ¬c.life.isReaped := by
  have there : s.isGone s.core.launched = false
      ↔ ∃ c ∈ s.children, c.generation = s.core.launched ∧ ¬c.life.isReaped := by
    rw [← Bool.not_eq_true, sound.isGone_iff]
    push Not
    rfl
  rw [← there]
  rcases sound.status_fst_cases with ⟨published, same⟩ | ⟨h, h', -, same, -, ended⟩
  · have none := sound.status_eq_none_iff.mp same
    have empty : s.children = [] := by simpa [none] using sound.numbered
    simp [same, isGone, child?, empty]
  · rw [same]
    simp only [Option.some.injEq, exists_eq_left', ← Bool.not_eq_true, ended]

/-- What is shown depends on what is published and on the processes, and on nothing else. -/
theorem status_fst_congr (core : s'.core = s.core) (children : s'.children = s.children) :
    s'.status.1 = s.status.1 := by
  have gone : s'.isGone = s.isGone := by
    funext generation
    simp only [isGone, child?, children]
  have lost : s'.watcherLost = s.watcherLost := by
    funext generation
    simp only [watcherLost, child?, core, children]
  unfold status
  rw [core, gone, lost]
  cases s.core.published with
  | none => rfl
  | some h =>
    simp only [transition, core]
    split_ifs <;> rfl

/-! ## The moment of a launch -/

/-- **The moment of a run at which an instance was launched**: the launch of this order starts its
process, which takes the next generation. -/
structure StartedBy (s : System) (before : List Move) (order : LaunchOrder) (h : Handle) : Prop where
  underway : (s.run before).work = some (.launching order .spawning)
  generation : h.generation = (s.run before).core.launched + 1
  startedAt : h.startedAt = ⟨(s.run before).now⟩
  restarts : h.restarts = order.restarts
  configuration : h.configuration = order.configuration
  command : h.command = order.command

theorem StartedBy.of_sameLaunch {before : List Move} {order : LaunchOrder}
    (started : s.StartedBy before order h) (same : h.SameLaunch h') :
    s.StartedBy before order h' where
  underway := started.underway
  generation := same.generation.trans started.generation
  startedAt := same.startedAt.trans started.startedAt
  restarts := same.restarts.trans started.restarts
  configuration := same.configuration.trans started.configuration
  command := same.command.trans started.command

/-- **Every instance was launched at some moment** of a run, unless it was there before. -/
theorem Sound.exists_startedBy (sound : s.Sound) (moves : List Move)
    (published : (s.run moves).core.published = some h') :
    (∃ h, s.core.published = some h ∧ h.SameLaunch h')
      ∨ ∃ before after order, moves = before ++ .spawn h'.pid :: after
        ∧ s.StartedBy before order h' := by
  induction moves using List.reverseRecOn generalizing h' with
  | nil => exact Or.inl ⟨h', published, .refl h'⟩
  | append_singleton moves move ih =>
    have sound' : (s.run moves).Sound := sound.changes (sound.changes_run moves)
    rw [run_append] at published
    -- A handle that was published before the last move was launched before it.
    have earlier : ∀ {asked : Demand → Prop}, Quiets asked (s.run moves) ((s.run moves).run [move]) →
        (∃ h, s.core.published = some h ∧ h.SameLaunch h')
          ∨ ∃ before after order, moves ++ [move] = before ++ .spawn h'.pid :: after
            ∧ s.StartedBy before order h' := by
      intro asked quiets
      obtain ⟨between, shown, same⟩ := sound'.sameLaunch_of_quiets quiets published
      rcases ih shown with ⟨h, first, same'⟩ | ⟨before, after, order, rfl, started⟩
      · exact Or.inl ⟨h, first, same'.trans same⟩
      · refine Or.inr ⟨before, after ++ [move], order, ?_, started.of_sameLaunch same⟩
        rw [same.pid, List.append_assoc, List.cons_append]
    by_cases spawns : ∃ pid, move = .spawn pid
    · obtain ⟨pid, rfl⟩ := spawns
      rcases (s.run moves).apply_spawn_cases pid with
        quiets | ⟨order, program, host, deadline, current, started⟩
      · exact earlier quiets
      · rw [run_cons, run_nil, started] at published
        cases published
        exact Or.inr ⟨moves, [], order, rfl, current, rfl, rfl, rfl, rfl, rfl⟩
    · exact earlier (sound'.quiets_apply move fun pid spawn => spawns ⟨pid, spawn⟩)

/-- A new instance takes a new generation. -/
theorem Sound.lt_generation_of_startedBy (sound : s.Sound) {before : List Move}
    {order : LaunchOrder} (started : s.StartedBy before order h) :
    s.core.launched < h.generation := by
  have onward := (sound.precedes_changes (sound.changes_run before)).launched
  rw [started.generation]
  omega

/-- **A later handle of the same instance tells of the same launch.** -/
theorem Sound.sameLaunch_of_run (sound : s.Sound) (moves : List Move)
    (published : s.core.published = some h) (published' : (s.run moves).core.published = some h')
    (same : h'.generation = h.generation) : h.SameLaunch h' := by
  rcases sound.exists_startedBy moves published' with
    ⟨first, shown, launch⟩ | ⟨before, -, order, -, started⟩
  · obtain rfl := Option.some.inj (published.symm.trans shown)
    exact launch
  · have later := sound.lt_generation_of_startedBy started
    have latest := sound.coherent.published h published
    omega

/-- **So does what is shown of it later.** -/
theorem Sound.sameLaunch_of_shown (sound : s.Sound) (moves : List Move)
    (shown : s.status.1 = some h) (shown' : (s.run moves).status.1 = some h')
    (same : h'.generation = h.generation) : h.SameLaunch h' := by
  have sound' : (s.run moves).Sound := sound.changes (sound.changes_run moves)
  obtain ⟨p, published, launch⟩ := sound.sameLaunch_of_status shown
  obtain ⟨p', published', launch'⟩ := sound'.sameLaunch_of_status shown'
  have one : p'.generation = p.generation :=
    launch'.generation.symm.trans (same.trans launch.generation)
  exact launch.symm.trans ((sound.sameLaunch_of_run moves published published' one).trans launch')

end System

end GuestSupervisor.Supervisor
