import GuestSupervisor.Proofs.Monitor.Reading
import GuestSupervisor.Proofs.Text.Transducer
import Mathlib.Data.List.Infix

/-!
# A reply in pieces

The monitor writes a text, and it is the reader who finds it in pieces: a piece may end inside a
character, inside an escape sequence and inside the prompt.  What is read does not depend on that.
The text is that of all the bytes, and no piece that is cut short is taken for the end.

## Main Definitions

* `shownText` — the text that bytes show on a terminal.
* `EndsInPrompt` — the prompt ends that text.
* `Cuts` — pieces that bytes may be found in.

## Main Statements

* `reader_complete` — the machine that reads byte by byte shows the text of all the bytes.
* `readUntilPrompt_cuts` — a reply is read as one, however it is cut.
-/

namespace GuestSupervisor.Monitor

open Text

variable {bytes : List UInt8} {text : List Char} {pieces later front : List (List UInt8)}

/-! ## The text that bytes show -/

/-- **The text that bytes show** on a terminal: decoded, and without escape sequences. -/
def shownText (bytes : List UInt8) : List Char := stripEscapes (Utf8.decodeLossy bytes)

/-- **The prompt ends the text** that the bytes show. -/
def EndsInPrompt (bytes : List UInt8) : Prop := prompt <:+ shownText bytes

instance (bytes : List UInt8) : Decidable (EndsInPrompt bytes) :=
  inferInstanceAs (Decidable (prompt <:+ shownText bytes))

/-- **Byte by byte the reader comes to the text of all the bytes.** -/
theorem reader_complete (bytes : List UInt8) : reader.complete bytes = shownText bytes :=
  Utf8.decoder.complete_andThen stripper bytes

theorem beforePrompt?_eq_some_iff :
    beforePrompt? bytes = some text ↔ shownText bytes = text ++ prompt := by
  rw [beforePrompt?, beforePromptReversed?, reader_complete, Option.map_eq_some_iff]
  constructor
  · rintro ⟨rest, found, rfl⟩
    have split := List.isPrefixOf?_eq_some_iff_append_eq.mp found
    rw [← List.reverse_reverse (shownText bytes), ← split]
    simp
  · intro shown
    refine ⟨text.reverse, List.isPrefixOf?_eq_some_iff_append_eq.mpr ?_, by simp⟩
    simp [shown]

theorem beforePrompt?_eq_none_iff : beforePrompt? bytes = none ↔ ¬ EndsInPrompt bytes := by
  rw [Option.eq_none_iff_forall_ne_some]
  constructor
  · rintro absent ⟨text, shown⟩
    exact absent text (beforePrompt?_eq_some_iff.mpr shown.symm)
  · intro unprompted text found
    exact unprompted ⟨text, (beforePrompt?_eq_some_iff.mp found).symm⟩

/-- **Reading goes on** while no prompt ends what is shown, and there is not too much of it. -/
theorem goesOn_iff : GoesOn bytes ↔ ¬ EndsInPrompt bytes ∧ bytes.length ≤ replyLimit := by
  rw [GoesOn, beforePrompt?_eq_none_iff]

/-! ## Bytes in pieces -/

/-- **Pieces that bytes may be found in**: a piece has at least one byte, since reading none is the
end of the stream. -/
structure Cuts (bytes : List UInt8) (pieces : List (List UInt8)) : Prop where
  flatten_eq : pieces.flatten = bytes
  filled : ∀ piece ∈ pieces, piece ≠ []

/-- The pieces that come first have fewer bytes than all of them. -/
theorem Cuts.flatten_ne (cuts : Cuts bytes pieces) (first : front <+: pieces)
    (other : front ≠ pieces) : front.flatten <+: bytes ∧ front.flatten ≠ bytes := by
  obtain ⟨rest, rfl⟩ := first
  rw [← cuts.flatten_eq, List.flatten_append]
  refine ⟨List.prefix_append _ _, fun same => other ?_⟩
  have none : rest.flatten = [] := List.self_eq_append_right.mp same
  cases rest with
  | nil => rw [List.append_nil]
  | cons piece rest =>
    exact absurd (List.append_eq_nil_iff.mp none).1 (cuts.filled piece (by simp))

/-- **A text that a prompt ends** is read whole, and nothing behind it. -/
theorem Cuts.readUntilPrompt (cuts : Cuts bytes pieces) (shown : shownText bytes = text ++ prompt)
    (short : bytes.length ≤ replyLimit)
    (first : ∀ front, front <+: bytes → front ≠ bytes → ¬ EndsInPrompt front)
    (later : List (List UInt8)) (ending : Ending) :
    Incoming.readUntilPrompt ⟨pieces ++ later, ending⟩ = (.text text true, ⟨later, ending⟩) := by
  have stops : ¬ GoesOn pieces.flatten := by
    rw [cuts.flatten_eq, goesOn_iff]
    exact fun goesOn => goesOn.1 ⟨text, shown.symm⟩
  have comesTo : stopped pieces.flatten = .text text true := by
    rw [cuts.flatten_eq, stopped, beforePrompt?_eq_some_iff.mpr shown]
  rw [← comesTo]
  refine readUntilPrompt_append stops (fun front ahead other => goesOn_iff.mpr ?_) later ending
  obtain ⟨within, less⟩ := cuts.flatten_ne ahead other
  exact ⟨first _ within less, Nat.le_trans within.length_le short⟩

/-- **A reply is read as one, however it is cut.**  A text that a prompt ends for the first time is
the text of all its bytes up to the prompt, and what comes behind it is left.  When no piece ends
in a prompt and the stream ends, all of it is the text, with its escape sequences. -/
theorem readUntilPrompt_cuts :
    (∀ bytes text, shownText bytes = text ++ prompt → bytes.length ≤ replyLimit →
      (∀ front, front <+: bytes → front ≠ bytes → ¬ EndsInPrompt front) →
      ∀ pieces, Cuts bytes pieces → ∀ later ending,
        Incoming.readUntilPrompt ⟨pieces ++ later, ending⟩
          = (.text text true, ⟨later, ending⟩)) ∧
    (∀ bytes pieces, Cuts bytes pieces → bytes.length ≤ replyLimit →
      (∀ read, read <+: pieces → ¬ EndsInPrompt read.flatten) →
      Incoming.readUntilPrompt ⟨pieces, .closed⟩
        = (.text (Utf8.decodeLossy bytes) false, ⟨[], .closed⟩)) := by
  refine ⟨fun bytes text shown short first pieces cuts later ending =>
    cuts.readUntilPrompt shown short first later ending, ?_⟩
  rintro bytes pieces ⟨rfl, -⟩ short unprompted
  refine readUntilPrompt_of_goesOn (fun read first => goesOn_iff.mpr ⟨unprompted read first, ?_⟩) _
  obtain ⟨rest, rfl⟩ := first
  rw [List.flatten_append, List.length_append] at short
  omega

/-- A reply that is cut inside a character, inside an escape sequence and inside the prompt, with
more behind it, and one that ends without a prompt, inside a character. -/
theorem readUntilPrompt_cut_inside :
    Incoming.readUntilPrompt
        ⟨[[0xC3], [0xA9, 0x1B, 0x5B], [0x4B, 0x28, 0x71], [0x65, 0x6D, 0x75, 0x29], [0x20]]
          ++ [[0x0D, 0x0A]], .silent⟩
      = (.text ['é'] true, ⟨[[0x0D, 0x0A]], .silent⟩) ∧
    Incoming.readUntilPrompt ⟨[[0x1B], [0x5B, 0x4B, 0x6F], [0x6B, 0xC3]], .closed⟩
      = (.text ['\x1b', '[', 'K', 'o', 'k', '\uFFFD'] false, ⟨[], .closed⟩) := by
  constructor
  · refine readUntilPrompt_cuts.1
      [0xC3, 0xA9, 0x1B, 0x5B, 0x4B, 0x28, 0x71, 0x65, 0x6D, 0x75, 0x29, 0x20] ['é'] (by decide)
      (by decide) (fun front first => ?_) _ ⟨rfl, by decide⟩ _ .silent
    rw [← List.mem_inits] at first
    revert front
    decide
  · refine readUntilPrompt_cuts.2 _ _ ⟨rfl, by decide⟩ (by decide) fun read first => ?_
    rw [← List.mem_inits] at first
    revert read
    decide

end GuestSupervisor.Monitor
