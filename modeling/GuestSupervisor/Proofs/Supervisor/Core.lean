import GuestSupervisor.Supervisor.Core

/-!
# The two copies of the phase

The supervisor keeps the machine of the latest instance and the handle that it
publishes about it apart.  This module shows that events cannot separate them: a
core whose copies agree still agrees after any event, whoever sends it, and what is
published about one instance only ever moves forward.

## Main Definitions

* `Core.Coherent` — both copies are about the latest instance and show one phase.
* `Handle.Advances` — what may become of a handle while its instance is the latest.

## Main Statements

* `Core.Coherent.transition` — an event keeps the copies together.
* `Core.Coherent.transition_of_ne` — an event for any other instance does nothing.
* `Core.Coherent.published_transition` — what an event for the latest instance
  leaves published.
-/

namespace GuestSupervisor.Supervisor

open Instance

/-- The phase can only become terminal by the end of the process or by giving up
the launch. -/
theorem isTerminal_of_step {phase : Phase} {event : Event}
    (terminal : (phase.step event).isTerminal) (live : phase.isTerminal = false) :
    (∃ success, event = .exited success) ∨ event = .launchAborted := by
  cases event with
  | exited success => exact Or.inl ⟨success, rfl⟩
  | launchAborted => exact Or.inr rfl
  | _ => cases phase <;> simp_all [Phase.step, Phase.liveStep, Phase.isTerminal]

/-- Every exit ends the instance, from whatever phase. -/
theorem isTerminal_step_exited (phase : Phase) (success : Bool) :
    (phase.step (.exited success)).isTerminal := by
  cases phase <;> cases success <;> rfl

/-- **A handle advances.**  Its instance stays the same, an end that was reached is
not taken back, and an exit that was recorded is not recorded again. -/
structure Handle.Advances (h h' : Handle) : Prop where
  generation : h'.generation = h.generation
  phase : h.phase.isTerminal → h'.phase = h.phase
  exit : ∀ e, h.exit = some e → h'.exit = some e

namespace Handle.Advances

@[refl] theorem refl (h : Handle) : h.Advances h := ⟨rfl, fun _ => rfl, fun _ same => same⟩

theorem trans {h h' h'' : Handle} (first : h.Advances h') (second : h'.Advances h'') :
    h.Advances h'' where
  generation := second.generation.trans first.generation
  phase := by
    intro terminal
    have kept := first.phase terminal
    rw [second.phase (by rw [kept]; exact terminal), kept]
  exit := fun e recorded => second.exit e (first.exit e recorded)

end Handle.Advances

namespace Core

variable {core : Core} {generation : Nat} {event : Event} {exit : Option ExitInfo}

/-- **Both copies are about the latest instance and show one phase.** -/
structure Coherent (core : Core) : Prop where
  /-- The machine follows the instance that was launched last. -/
  active : ∀ a, core.active = some a → a.generation = core.launched
  /-- The handle is about the instance that was launched last. -/
  published : ∀ h, core.published = some h → h.generation = core.launched
  /-- The published phase is the machine's. -/
  phase : core.published.map Handle.phase = core.active.map Active.phase
  /-- Something is published as soon as there was a launch. -/
  isSome : core.published.isSome ↔ 0 < core.launched

@[simp] theorem launched_transition : (core.transition generation event exit).launched
    = core.launched := by
  unfold transition
  split
  · rfl
  · split <;> rfl

theorem coherent_start : Core.start.Coherent where
  active := by simp [Core.start]
  published := by simp [Core.start]
  phase := rfl
  isSome := by simp [Core.start]

theorem coherent_install (core : Core) (pid : UInt32) (startedAt : Text.Timestamp)
    (restarts : Nat) (configuration : Configuration) (command : EmulatorCommand) :
    (core.install pid startedAt restarts configuration command).Coherent where
  active := by simp [install]
  published := by simp [install]
  phase := rfl
  isSome := by simp [install]

/-- An event whose instance is not the one that the machine follows is dropped. -/
theorem transition_of_ne (other : ∀ a, core.active = some a → a.generation ≠ generation) :
    core.transition generation event exit = core := by
  unfold transition
  cases active : core.active with
  | none => rfl
  | some a => simp [other a active]

namespace Coherent

/-- After a launch there are a machine and a handle, with one phase. -/
theorem exists_of_pos (coherent : core.Coherent) (launched : 0 < core.launched) :
    ∃ a h, core.active = some a ∧ core.published = some h ∧ h.phase = a.phase := by
  obtain ⟨h, published⟩ := Option.isSome_iff_exists.mp (coherent.isSome.mpr launched)
  have phase := coherent.phase
  rw [published] at phase
  cases active : core.active with
  | none => simp [active] at phase
  | some a => exact ⟨a, h, rfl, published, by simpa [active] using phase⟩

/-- Without a handle there is no machine. -/
theorem active_eq_none (coherent : core.Coherent) (published : core.published = none) :
    core.active = none := by
  have phase := coherent.phase
  rw [published] at phase
  cases active : core.active with
  | none => rfl
  | some a => simp [active] at phase

theorem transition_of_ne (coherent : core.Coherent) (other : generation ≠ core.launched) :
    core.transition generation event exit = core :=
  Core.transition_of_ne fun a active same => other (by rw [← same, coherent.active a active])

/-- What an event for the latest instance leaves of the machine and the handle. -/
theorem transition_eq (coherent : core.Coherent) {h : Handle}
    (published : core.published = some h) (event : Event) (exit : Option ExitInfo) :
    ∃ a, core.active = some a ∧ a.phase = h.phase ∧
      core.transition core.launched event exit =
        { core with
          active := some
            { a with
              phase := h.phase.step event
              killSwitch := a.killSwitch && !(h.phase.step event).isTerminal }
          published := some { h with phase := h.phase.step event, exit := h.exit.or exit }
          revision := core.revision + 1 } := by
  have launched : 0 < core.launched := coherent.isSome.mp (by simp [published])
  obtain ⟨a, h', active, published', phase⟩ := coherent.exists_of_pos launched
  obtain rfl : h = h' := Option.some.inj (published.symm.trans published')
  refine ⟨a, active, phase.symm, ?_⟩
  simp [Core.transition, active, coherent.active a active, republish, published,
    coherent.published h published, phase]

theorem published_transition (coherent : core.Coherent) {h : Handle}
    (published : core.published = some h) (event : Event) (exit : Option ExitInfo) :
    (core.transition core.launched event exit).published
      = some { h with phase := h.phase.step event, exit := h.exit.or exit } := by
  obtain ⟨a, -, -, equation⟩ := coherent.transition_eq published event exit
  rw [equation]

/-- An event keeps the copies together, whoever it is for. -/
theorem transition (coherent : core.Coherent) :
    (core.transition generation event exit).Coherent := by
  by_cases other : generation = core.launched
  · subst other
    cases published : core.published with
    | none =>
      rw [Core.transition_of_ne (by simp [coherent.active_eq_none published])]
      exact coherent
    | some h =>
      obtain ⟨a, active, -, equation⟩ := coherent.transition_eq published event exit
      rw [equation]
      refine ⟨?_, ?_, rfl, ?_⟩
      · rintro _ ⟨⟩
        exact coherent.active a active
      · rintro _ ⟨⟩
        exact coherent.published h published
      · simpa [published] using coherent.isSome
  · rw [coherent.transition_of_ne other]
    exact coherent

/-- An event either does nothing or reaches the machine of the latest instance. -/
theorem transition_cases (coherent : core.Coherent) (generation : Nat) (event : Event)
    (exit : Option ExitInfo) :
    core.transition generation event exit = core ∨
      generation = core.launched ∧ ∃ h, core.published = some h ∧
        (core.transition generation event exit).published
          = some { h with phase := h.phase.step event, exit := h.exit.or exit } := by
  by_cases other : generation = core.launched
  · subst other
    cases published : core.published with
    | none => exact Or.inl (Core.transition_of_ne (by simp [coherent.active_eq_none published]))
    | some h => exact Or.inr ⟨rfl, h, rfl, coherent.published_transition published event exit⟩
  · exact Or.inl (coherent.transition_of_ne other)

/-- Whatever an event changes about what is published, it advances the handle. -/
theorem advances_transition (coherent : core.Coherent) {h : Handle}
    (published : core.published = some h) (generation : Nat) (event : Event)
    (exit : Option ExitInfo) :
    ∃ h', (core.transition generation event exit).published = some h' ∧ h.Advances h' := by
  by_cases other : generation = core.launched
  · subst other
    refine ⟨_, coherent.published_transition published event exit, rfl, ?_, ?_⟩
    · intro terminal
      exact Phase.step_of_isTerminal terminal event
    · intro e recorded
      simp [recorded]
  · rw [coherent.transition_of_ne other]
    exact ⟨h, published, Handle.Advances.refl h⟩

/-- What becomes known about a watcher, and the order to kill, leave both copies
as they are. -/
theorem mapActive (coherent : core.Coherent) {change : Active → Active}
    (generation : ∀ a, (change a).generation = a.generation)
    (phase : ∀ a, (change a).phase = a.phase) :
    Coherent { core with active := core.active.map change } where
  active := by
    intro a changed
    obtain ⟨b, active, rfl⟩ := Option.map_eq_some_iff.mp changed
    rw [generation]
    exact coherent.active b active
  published := coherent.published
  phase := by
    rw [coherent.phase, Option.map_map]
    exact congrArg (core.active.map ·) (funext fun a => (phase a).symm)
  isSome := coherent.isSome

theorem attach (coherent : core.Coherent) : (core.attach generation).Coherent := by
  refine coherent.mapActive (fun a => ?_) (fun a => ?_) <;> split <;> rfl

theorem useKillSwitch (coherent : core.Coherent) : (core.useKillSwitch generation).Coherent := by
  refine coherent.mapActive (fun a => ?_) (fun a => ?_) <;> split <;> rfl

end Coherent

end Core

end GuestSupervisor.Supervisor
