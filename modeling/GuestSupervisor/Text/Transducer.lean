/-!
# Transducers

A machine that reads a sequence one item at a time and writes some items for
each. Decoding bytes and stripping escape sequences are both of this shape, and
reading them in pieces rests on one law: to run over `a ++ b` is to run over `a`
and then over `b`.

## Main Definitions

* `Transducer`: the states, the step and what is written when the input ends.
* `Transducer.run`: the state reached and everything written on the way.
* `Transducer.complete`: everything written for a whole input.
* `Transducer.andThen`: the output of one machine read by another.
-/

namespace GuestSupervisor.Text

/-- A machine from sequences of `α` to sequences of `β` with states in `σ`. -/
structure Transducer (σ α β : Type) where
  /-- The state before the first item. -/
  start : σ
  /-- The state after one item, and what is written for it. -/
  step : σ → α → σ × List β
  /-- What is written when the input ends in a state. -/
  finish : σ → List β

namespace Transducer

variable {σ τ α β γ : Type}

/-- One step of a run: `written` holds what was written before, last item first. -/
def feed (machine : Transducer σ α β) (run : σ × List β) (item : α) : σ × List β :=
  let (next, out) := machine.step run.1 item
  (next, out.reverse ++ run.2)

/-- The state after `items` from `state`, and the items written before and on the
way, last first. -/
def runFrom (machine : Transducer σ α β) (run : σ × List β) (items : List α) : σ × List β :=
  items.foldl machine.feed run

/-- The state after `items`, and what was written on the way. -/
def run (machine : Transducer σ α β) (items : List α) : σ × List β :=
  let (state, written) := machine.runFrom (machine.start, []) items
  (state, written.reverse)

/-- Everything the machine writes for `items` as a whole input. -/
def complete (machine : Transducer σ α β) (items : List α) : List β :=
  let (state, written) := machine.runFrom (machine.start, []) items
  written.reverse ++ machine.finish state

/-- The machine that passes what `first` writes to `second`. -/
def andThen (first : Transducer σ α β) (second : Transducer τ β γ) :
    Transducer (σ × τ) α γ where
  start := (first.start, second.start)
  step state item :=
    let (next, out) := first.step state.1 item
    let (next', written) := second.runFrom (state.2, []) out
    ((next, next'), written.reverse)
  finish state :=
    let (last, written) := second.runFrom (state.2, []) (first.finish state.1)
    written.reverse ++ second.finish last

/-- Running over two pieces is running over the first and then the second. -/
theorem runFrom_append (machine : Transducer σ α β) (run : σ × List β) (a b : List α) :
    machine.runFrom run (a ++ b) = machine.runFrom (machine.runFrom run a) b := by
  simp [runFrom, List.foldl_append]

@[simp] theorem runFrom_nil (machine : Transducer σ α β) (run : σ × List β) :
    machine.runFrom run [] = run := rfl

@[simp] theorem runFrom_cons (machine : Transducer σ α β) (run : σ × List β) (item : α)
    (items : List α) :
    machine.runFrom run (item :: items) = machine.runFrom (machine.feed run item) items := rfl

/-- What was written before a run stays below what the run writes. -/
theorem runFrom_written (machine : Transducer σ α β) (state : σ) (written : List β)
    (items : List α) :
    machine.runFrom (state, written) items =
      ((machine.runFrom (state, []) items).1,
        (machine.runFrom (state, []) items).2 ++ written) := by
  induction items generalizing state written with
  | nil => simp
  | cons item items ih =>
    simp only [runFrom_cons, feed]
    rw [ih, ih _ ((machine.step state item).2.reverse ++ [])]
    simp

end Transducer

end GuestSupervisor.Text
