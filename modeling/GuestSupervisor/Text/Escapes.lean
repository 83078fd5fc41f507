import GuestSupervisor.Text.Transducer

/-!
# Terminal escape sequences

A monitor that thinks it talks to a terminal sends escape sequences. This module
removes them: an ESC goes alone, and ESC `[` goes with everything up to the first
character between `@` and `~`.

## Main Definitions

* `stripper`: the removal as a machine with three states.
* `stripEscapes`: the removal from a whole text.
-/

namespace GuestSupervisor.Text

/-- Where the removal stands between two characters. -/
inductive EscapeState where
  /-- In plain text. -/
  | plain
  /-- Right after an ESC. -/
  | escape
  /-- Inside ESC `[` and before the character that ends it. -/
  | sequence
  deriving DecidableEq, Repr

/-- The character that starts every escape sequence. -/
def esc : Char := '\x1b'

/-- Whether a character ends the sequence that ESC `[` starts. -/
def endsSequence (c : Char) : Bool := '@' ≤ c && c ≤ '~'

/-- One character. An ESC that no `[` follows is dropped alone, and what follows
it is read as plain text. -/
def EscapeState.step : EscapeState → Char → EscapeState × List Char
  | .plain, c => if c = esc then (.escape, []) else (.plain, [c])
  | .escape, c =>
    if c = '[' then (.sequence, [])
    else if c = esc then (.escape, [])
    else (.plain, [c])
  | .sequence, c => if endsSequence c then (.plain, []) else (.sequence, [])

/-- The removal of escape sequences as a machine. A sequence that the text cuts
short is dropped. -/
def stripper : Transducer EscapeState Char Char := ⟨.plain, EscapeState.step, fun _ => []⟩

/-- The text without its escape sequences. -/
def stripEscapes (text : List Char) : List Char := stripper.complete text

@[simp] theorem stripEscapes_nil : stripEscapes [] = [] := rfl

end GuestSupervisor.Text
