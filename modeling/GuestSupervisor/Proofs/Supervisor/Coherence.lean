import GuestSupervisor.Proofs.Supervisor.Moves

/-!
# What is published

Callers see one handle, and the supervisor acts on another copy of its phase.  This
module follows both through runs in which events for any other instance may come at
any moment, as late as they like: the copies never part, an instance that has ended
stays ended as it did, and the first exit that is recorded is the one that stays.

## Main Definitions

* `Occurrence` — a move, or an event for an instance that is not the latest.
* `System.Precedes` — what one moment of a run has to do with a later one.

## Main Statements

* `System.published_coherent` — what is published at every moment, and how it may
  differ later.

## Design Notes

An event for another instance may name an older one or one that never was.  Events
for the latest instance come from moves alone, because it matters what was made sure
of before them.
-/

namespace GuestSupervisor.Supervisor

open Instance

/-- **Something occurs**: a move, or an event for an instance that is not the latest
from anybody at all. -/
inductive Occurrence where
  | move (move : Move)
  | stray (generation : Nat) (event : Event) (exit : Option ExitInfo)

namespace System

variable {s t u : System}

/-- The system after something has occurred.  An event for the latest instance is no
stray one. -/
def occur (s : System) : Occurrence → System
  | .move move => s.apply move
  | .stray generation event exit =>
    if generation = s.core.launched then s else s.transition generation event exit

/-- The system after many things have occurred. -/
def follow (s : System) (occurrences : List Occurrence) : System := occurrences.foldl occur s

/-! ## Earlier and later -/

/-- **One moment precedes another.**  Generations are only ever added, and as long as
none is, what is published advances. -/
structure Precedes (s t : System) : Prop where
  launched : s.core.launched ≤ t.core.launched
  published : t.core.launched = s.core.launched → ∀ h, s.core.published = some h →
    ∃ h', t.core.published = some h' ∧ h.Advances h'

theorem Precedes.refl (s : System) : s.Precedes s :=
  ⟨Nat.le_refl _, fun _ h published => ⟨h, published, Handle.Advances.refl h⟩⟩

theorem Precedes.trans (first : s.Precedes t) (second : t.Precedes u) : s.Precedes u where
  launched := Nat.le_trans first.launched second.launched
  published := by
    intro same h published
    have before := first.launched
    have after := second.launched
    obtain ⟨h', published', advances⟩ := first.published (by omega) h published
    obtain ⟨h'', published'', advances'⟩ := second.published (by omega) h' published'
    exact ⟨h'', published'', advances.trans advances'⟩

theorem Precedes.of_eq (launched : t.core.launched = s.core.launched)
    (published : t.core.published = s.core.published) : s.Precedes t where
  launched := by rw [launched]
  published := fun _ h shown => ⟨h, published.trans shown, Handle.Advances.refl h⟩

theorem Sound.precedes_quiet {asked : Demand → Prop} (sound : s.Sound) (quiet : Quiet asked s t) :
    s.Precedes t := by
  cases quiet with
  | outside t core => exact .of_eq (by rw [core]) (by rw [core])
  | event generation event exit warrant =>
    exact ⟨Nat.le_of_eq Core.launched_transition.symm,
      fun _ h published => sound.coherent.advances_transition published generation event exit⟩
  | launchEnded => exact .of_eq (by simp) (by simp)
  | _ => exact .of_eq rfl rfl

/-- **What comes before a change precedes what comes after.**  A new instance takes a new
generation, so it leaves nothing to be kept. -/
theorem Sound.precedes_change (sound : s.Sound) (change : Change s t) : s.Precedes t := by
  cases change with
  | quiet quiet => exact sound.precedes_quiet quiet
  | started order pid program host deadline current =>
    have launched : (s.started order pid program host deadline).core.launched
        = s.core.launched + 1 := rfl
    exact ⟨by omega, fun same => by omega⟩

theorem Sound.precedes_changes (sound : s.Sound) (changes : Changes s t) : s.Precedes t := by
  induction changes with
  | refl => exact .refl s
  | tail earlier last ih => exact ih.trans ((sound.changes earlier).precedes_change last)

/-! ## Stray events -/

/-- An event for any other instance than the latest does nothing. -/
theorem Sound.transition_of_ne (sound : s.Sound) {generation : Nat} {event : Event}
    {exit : Option ExitInfo} (other : generation ≠ s.core.launched) :
    s.transition generation event exit = s := by
  unfold System.transition
  rw [sound.coherent.transition_of_ne other]

theorem Sound.changes_occur (sound : s.Sound) (occurrence : Occurrence) :
    Changes s (s.occur occurrence) := by
  cases occurrence with
  | move move => exact sound.changes_apply move
  | stray generation event exit =>
    simp only [occur]
    split
    · exact .refl
    · rw [sound.transition_of_ne ‹_›]

theorem Sound.changes_follow (sound : s.Sound) (occurrences : List Occurrence) :
    Changes s (s.follow occurrences) := by
  induction occurrences generalizing s with
  | nil => exact .refl
  | cons occurrence occurrences ih =>
    have changes := sound.changes_occur occurrence
    exact changes.trans (ih (sound.changes changes))

/-- **What is published agrees with the machine and only advances.**  Whatever has
occurred before, and whatever occurs after,

* as soon as there was a launch there are a machine and a handle, both of the latest
  instance and with one phase, and a handle with an exit shows an instance that has
  ended;
* a handle of the same instance that is published later shows the same phase if the
  instance had ended, and the same exit if one was recorded;
* an event for any other instance than the machine's changes nothing at all. -/
theorem published_coherent (options : SupervisorOptions) (host : Host) (now : Nat)
    (before after : List Occurrence) :
    let s := (start options host now).follow before
    let t := s.follow after
    (0 < s.core.launched → ∃ a h, s.core.active = some a ∧ s.core.published = some h ∧
      a.generation = s.core.launched ∧ h.generation = a.generation ∧ h.phase = a.phase ∧
      (h.exit.isSome → h.phase.isTerminal)) ∧
    (∀ h h', s.core.published = some h → t.core.published = some h' →
      h'.generation = h.generation →
        (h.phase.isTerminal → h'.phase = h.phase) ∧ ∀ e, h.exit = some e → h'.exit = some e) ∧
    ∀ generation event exit, (∀ a, s.core.active = some a → a.generation ≠ generation) →
      s.transition generation event exit = s := by
  intro s t
  have sound : s.Sound :=
    (sound_start options host now).changes ((sound_start options host now).changes_follow before)
  have changes : Changes s t := sound.changes_follow after
  refine ⟨?_, ?_, ?_⟩
  · intro launched
    obtain ⟨a, h, active, published, phase⟩ := sound.coherent.exists_of_pos launched
    have latest := sound.coherent.active a active
    exact ⟨a, h, active, published, latest,
      (sound.coherent.published h published).trans latest.symm, phase, sound.recorded h published⟩
  · intro h h' published published' same
    -- Two handles of one instance mean that none was launched between them.
    have launched : t.core.launched = s.core.launched := by
      rw [← sound.coherent.published h published, ← same]
      exact ((sound.changes changes).coherent.published h' published').symm
    obtain ⟨h'', published'', advances⟩ :=
      (sound.precedes_changes changes).published launched h published
    obtain rfl : h' = h'' := Option.some.inj (published'.symm.trans published'')
    exact ⟨advances.phase, advances.exit⟩
  · intro generation event exit other
    unfold System.transition
    rw [Core.transition_of_ne other]

end System

end GuestSupervisor.Supervisor
