import GuestSupervisor.Text.Escapes
import Mathlib.Logic.Basic

/-!
# Taking escape sequences out

A text is made of characters and of escape sequences: an ESC alone, and ESC `[` with everything up
to the character that ends it, or up to the end of the text.  Read in this way there is one text
that is left without the sequences, and it is the one that the machine writes.  A text may be cut in
two and each part read for itself, except where the cut is inside a sequence.

## Main Definitions

* `Stripped` — what is left of a text without its escape sequences.
* `EndsInside` — a text ends inside an escape sequence.

## Main Statements

* `stripped_iff` — that is what the machine writes.
* `Stripped.not_mem_esc` — no ESC is left.
* `Stripped.append_of_not_mem` — characters before the first ESC stay, and the rest is read as if
  they were not there.
* `Stripped.append`, `EndsInside.stripped_append` — where a text may be cut.
* `stripEscapes_spec` — what is taken out, and what is not.
-/

namespace GuestSupervisor.Text

/-! ## Escape sequences -/

/-- **What is left of a text without its escape sequences**: it is read from the left as characters
and sequences, and the characters are left. -/
inductive Stripped : List Char → List Char → Prop
  | nil : Stripped [] []
  | char {c text shown} (plain : c ≠ esc) (rest : Stripped text shown) :
      Stripped (c :: text) (c :: shown)
  /-- An ESC alone. -/
  | lone {text shown} (alone : text.head? ≠ some '[') (rest : Stripped text shown) :
      Stripped (esc :: text) shown
  | sequence {parameters final text shown} (inside : ∀ c ∈ parameters, endsSequence c = false)
      (ends : endsSequence final) (rest : Stripped text shown) :
      Stripped (esc :: '[' :: (parameters ++ final :: text)) shown
  /-- The text ends before the sequence does. -/
  | cut {parameters} (inside : ∀ c ∈ parameters, endsSequence c = false) :
      Stripped (esc :: '[' :: parameters) []

variable {text shown parameters : List Char}

/-- A sequence ends somewhere in the text behind ESC `[`, or nowhere. -/
theorem ends_or_cut (text : List Char) :
    (∃ parameters final after, text = parameters ++ final :: after ∧
        (∀ c ∈ parameters, endsSequence c = false) ∧ endsSequence final) ∨
      ∀ c ∈ text, endsSequence c = false := by
  induction text with
  | nil => exact .inr (by simp)
  | cons c text ih =>
    cases ends : endsSequence c with
    | true => exact .inl ⟨[], c, text, rfl, by simp, ends⟩
    | false =>
      rcases ih with ⟨parameters, final, after, rfl, inside, final'⟩ | cut
      · exact .inl ⟨c :: parameters, final, after, rfl,
          List.forall_mem_cons.mpr ⟨ends, inside⟩, final'⟩
      · exact .inr (List.forall_mem_cons.mpr ⟨ends, cut⟩)

/-- Every text can be read in this way. -/
theorem exists_stripped (text : List Char) : ∃ shown, Stripped text shown := by
  induction length : text.length using Nat.strongRecOn generalizing text with
  | _ n ih =>
    subst length
    cases text with
    | nil => exact ⟨[], .nil⟩
    | cons c text =>
      obtain ⟨shown, rest⟩ := ih text.length (by simp) text rfl
      by_cases plain : c ≠ esc
      · exact ⟨c :: shown, .char plain rest⟩
      · obtain rfl : c = esc := not_not.mp plain
        by_cases alone : text.head? ≠ some '['
        · exact ⟨shown, .lone alone rest⟩
        · obtain ⟨inner, rfl⟩ := List.head?_eq_some_iff.mp (not_not.mp alone)
          -- What is behind the sequence is shorter by more than its first two characters.
          rcases ends_or_cut inner with ⟨parameters, final, after, rfl, inside, ends⟩ | cut
          · obtain ⟨shown, rest⟩ := ih after.length (by simp; omega) after rfl
            exact ⟨shown, .sequence inside ends rest⟩
          · exact ⟨[], .cut cut⟩

/-- No ESC is left. -/
theorem Stripped.not_mem_esc (stripped : Stripped text shown) : esc ∉ shown := by
  induction stripped with
  | nil | cut => simp
  | char plain _ ih => simp [Ne.symm plain, ih]
  | lone _ _ ih | sequence _ _ _ ih => exact ih

/-- Characters before the first ESC stay, and the rest is read as if they were not there. -/
theorem Stripped.append_of_not_mem {before : List Char} (plain : esc ∉ before)
    (stripped : Stripped text shown) : Stripped (before ++ text) (before ++ shown) := by
  induction before with
  | nil => exact stripped
  | cons c before ih =>
    rw [List.mem_cons, not_or] at plain
    exact .char (Ne.symm plain.1) (ih plain.2)

/-! ## The machine -/

/-- What the machine writes for a text when it is in a state. -/
def writtenFrom (state : EscapeState) (text : List Char) : List Char :=
  (stripper.runFrom (state, []) text).2.reverse

theorem writtenFrom_cons (state : EscapeState) (c : Char) (text : List Char) :
    writtenFrom state (c :: text) = (state.step c).2 ++ writtenFrom (state.step c).1 text := by
  simp only [writtenFrom, Transducer.runFrom_cons, Transducer.feed]
  rw [Transducer.runFrom_written]
  simp [stripper]

theorem stripEscapes_eq (text : List Char) : stripEscapes text = writtenFrom .plain text := by
  simp [stripEscapes, Transducer.complete, writtenFrom, stripper]

/-- Right after an ESC without `[` the machine goes on as in plain text. -/
theorem writtenFrom_escape (alone : text.head? ≠ some '[') :
    writtenFrom .escape text = writtenFrom .plain text := by
  cases text with
  | nil => rfl
  | cons c text =>
    have other : c ≠ '[' := by simpa using alone
    rw [writtenFrom_cons, writtenFrom_cons]
    simp only [EscapeState.step, if_neg other]

/-- Inside a sequence nothing is written. -/
theorem writtenFrom_sequence (inside : ∀ c ∈ parameters, endsSequence c = false)
    (text : List Char) :
    writtenFrom .sequence (parameters ++ text) = writtenFrom .sequence text := by
  induction parameters with
  | nil => rfl
  | cons c parameters ih =>
    rw [List.forall_mem_cons] at inside
    rw [List.cons_append, writtenFrom_cons]
    simp only [EscapeState.step, inside.1, Bool.false_eq_true, if_false, List.nil_append,
      ih inside.2]

/-- What is left is what the machine writes. -/
theorem Stripped.writtenFrom_eq (stripped : Stripped text shown) :
    writtenFrom .plain text = shown := by
  have opens (after : List Char) :
      writtenFrom .plain (esc :: '[' :: after) = writtenFrom .sequence after := by
    rw [writtenFrom_cons, writtenFrom_cons]
    rfl
  induction stripped with
  | nil => rfl
  | char plain _ ih =>
    rw [writtenFrom_cons]
    simp only [EscapeState.step, if_neg plain, ih, List.singleton_append]
  | lone alone _ ih =>
    rw [writtenFrom_cons, ← ih, ← writtenFrom_escape alone]
    rfl
  | sequence inside ends _ ih =>
    rw [opens, writtenFrom_sequence inside, writtenFrom_cons]
    simp only [EscapeState.step, ends, if_true, ih, List.nil_append]
  | cut inside =>
    rw [opens]
    simpa [writtenFrom] using writtenFrom_sequence inside []

/-- **The machine takes the escape sequences out and nothing else.** -/
theorem stripped_iff : Stripped text shown ↔ stripEscapes text = shown := by
  constructor
  · intro stripped
    rw [stripEscapes_eq, stripped.writtenFrom_eq]
  · rintro rfl
    obtain ⟨shown, stripped⟩ := exists_stripped text
    rwa [stripEscapes_eq, stripped.writtenFrom_eq]

/-! ## Texts in parts -/

/-- **A text ends inside an escape sequence**: it is read from the left as characters and sequences,
and the last of these may go on behind the text. -/
inductive EndsInside : List Char → Prop
  /-- Nothing is behind the ESC yet. -/
  | escape : EndsInside [esc]
  /-- The character that ends the sequence is still to come. -/
  | sequence {parameters : List Char} (inside : ∀ c ∈ parameters, endsSequence c = false) :
      EndsInside (esc :: '[' :: parameters)
  | behindChar {c : Char} {text : List Char} (plain : c ≠ esc) (rest : EndsInside text) :
      EndsInside (c :: text)
  | behindLone {text : List Char} (alone : text.head? ≠ some '[') (rest : EndsInside text) :
      EndsInside (esc :: text)
  | behindSequence {parameters text : List Char} {final : Char}
      (inside : ∀ c ∈ parameters, endsSequence c = false) (ends : endsSequence final)
      (rest : EndsInside text) :
      EndsInside (esc :: '[' :: (parameters ++ final :: text))

variable {more : List Char}

theorem EndsInside.ne_nil (unended : EndsInside text) : text ≠ [] := by
  rintro rfl
  cases unended

/-- What is behind a text does not change how it begins. -/
theorem head?_append_ne (nonempty : text ≠ []) (alone : text.head? ≠ some '[') (more : List Char) :
    (text ++ more).head? ≠ some '[' := by
  obtain ⟨c, rest, rfl⟩ := List.exists_cons_of_ne_nil nonempty
  exact alone

/-- **Two parts are read one after the other**, if the first does not end inside a sequence. -/
theorem Stripped.append {shown' : List Char} (stripped : Stripped text shown)
    (closed : ¬ EndsInside text) (rest : Stripped more shown') :
    Stripped (text ++ more) (shown ++ shown') := by
  induction stripped with
  | nil => exact rest
  | char plain _ ih => exact .char plain (ih fun unended => closed (.behindChar plain unended))
  | @lone text _ alone _ ih =>
    -- There is a character behind the ESC, so it is not the other part that decides.
    have nonempty : text ≠ [] := by
      rintro rfl
      exact closed .escape
    exact .lone (head?_append_ne nonempty alone more)
      (ih fun unended => closed (.behindLone alone unended))
  | sequence inside ends _ ih =>
    have behind := ih fun unended => closed (.behindSequence inside ends unended)
    simpa using Stripped.sequence inside ends behind
  | cut inside => exact absurd (.sequence inside) closed

/-- A bracket behind a text that ends inside a sequence belongs to the sequence. -/
theorem EndsInside.stripped_append (unended : EndsInside text) :
    ∃ shown, Stripped text shown ∧ Stripped (text ++ ['[']) shown := by
  induction unended with
  | escape => exact ⟨[], .lone (by simp) .nil, .cut (List.forall_mem_nil _)⟩
  | sequence inside => exact ⟨[], .cut inside, .sequence inside (by decide) .nil⟩
  | @behindChar c _ plain _ ih =>
    obtain ⟨shown, alone, longer⟩ := ih
    exact ⟨c :: shown, .char plain alone, .char plain longer⟩
  | behindLone alone rest ih =>
    obtain ⟨shown, first, longer⟩ := ih
    exact ⟨shown, .lone alone first, .lone (head?_append_ne rest.ne_nil alone _) longer⟩
  | behindSequence inside ends _ ih =>
    obtain ⟨shown, alone, longer⟩ := ih
    exact ⟨shown, .sequence inside ends alone, by simpa using Stripped.sequence inside ends longer⟩

/-- **Where a text may be cut** for its parts to be read for themselves. -/
theorem stripEscapes_append_iff :
    (∀ more, stripEscapes (text ++ more) = stripEscapes text ++ stripEscapes more)
      ↔ ¬ EndsInside text := by
  constructor
  · intro parts unended
    obtain ⟨shown, alone, longer⟩ := unended.stripped_append
    have apart := parts ['[']
    rw [stripped_iff.mp alone, stripped_iff.mp longer] at apart
    exact List.cons_ne_nil _ _ (List.self_eq_append_right.mp apart)
  · intro closed more
    exact stripped_iff.mp ((stripped_iff.mpr rfl).append closed (stripped_iff.mpr rfl))

theorem not_mem_stripEscapes (text : List Char) : esc ∉ stripEscapes text :=
  (stripped_iff.mpr rfl).not_mem_esc

/-- A text stays as it is exactly if there is no ESC in it. -/
theorem stripEscapes_eq_self_iff : stripEscapes text = text ↔ esc ∉ text := by
  constructor
  · intro same
    rw [← same]
    exact not_mem_stripEscapes text
  · intro plain
    simpa using stripped_iff.mp (Stripped.nil.append_of_not_mem plain)

/-- **The escape sequences are taken out and nothing else.**  What is left is the text without its
sequences; there is no ESC in it, so taking them out once more changes nothing, and a text stays as
it is if there is none.  The parts of a text may be read for themselves exactly if the first does
not end inside a sequence. -/
theorem stripEscapes_spec (text : List Char) :
    (∀ shown, stripEscapes text = shown ↔ Stripped text shown)
      ∧ esc ∉ stripEscapes text
      ∧ (stripEscapes text = text ↔ esc ∉ text)
      ∧ stripEscapes (stripEscapes text) = stripEscapes text
      ∧ ((∀ more, stripEscapes (text ++ more) = stripEscapes text ++ stripEscapes more)
        ↔ ¬ EndsInside text) :=
  ⟨fun _ => stripped_iff.symm, not_mem_stripEscapes text, stripEscapes_eq_self_iff,
    stripEscapes_eq_self_iff.mpr (not_mem_stripEscapes text), stripEscapes_append_iff⟩

end GuestSupervisor.Text
