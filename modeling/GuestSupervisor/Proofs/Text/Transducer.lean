import GuestSupervisor.Text.Transducer

/-!
# One machine behind another

A machine that reads what another one writes may read it as it is written.  Nothing is lost by
that: what comes out is what the second machine makes of the whole output of the first, the end of
it included.

## Main Statements

* `Transducer.runFrom_andThen` — both machines after the same items.
* `Transducer.complete_andThen` — the outputs compose.
-/

namespace GuestSupervisor.Text.Transducer

variable {σ τ α β γ : Type} (first : Transducer σ α β) (second : Transducer τ β γ)

/-- **Both machines after the same items**: the second one has read whatever the first one has
written on the way. -/
theorem runFrom_andThen (state : σ) (state' : τ) (written : List γ) (items : List α) :
    (first.andThen second).runFrom ((state, state'), written) items
      = (((first.runFrom (state, []) items).1,
          (second.runFrom (state', written) (first.runFrom (state, []) items).2.reverse).1),
          (second.runFrom (state', written) (first.runFrom (state, []) items).2.reverse).2) := by
  induction items generalizing state state' written with
  | nil => rfl
  | cons item items ih =>
    simp only [runFrom_cons]
    -- What the first machine writes for the item comes before what it writes for the others.
    have fed : first.feed (state, []) item
        = ((first.step state item).1, (first.step state item).2.reverse) := by
      simp [feed]
    have read : (first.andThen second).feed ((state, state'), written) item
        = (((first.step state item).1,
            (second.runFrom (state', written) (first.step state item).2).1),
            (second.runFrom (state', written) (first.step state item).2).2) := by
      rw [second.runFrom_written state' written]
      simp [feed, andThen]
    rw [fed, read, first.runFrom_written _ (first.step state item).2.reverse, ih]
    simp only [List.reverse_append, List.reverse_reverse, second.runFrom_append]

/-- **The outputs compose**: what comes out is what the second machine makes of all that the first
one writes. -/
theorem complete_andThen (items : List α) :
    (first.andThen second).complete items = second.complete (first.complete items) := by
  have both := first.runFrom_andThen second first.start second.start [] items
  unfold complete
  rw [show (first.andThen second).start = (first.start, second.start) from rfl, both,
    second.runFrom_append]
  -- What the first machine writes at the end is read after all the rest.
  rw [second.runFrom_written (second.runFrom (second.start, []) _).1]
  simp [andThen]

end GuestSupervisor.Text.Transducer
