import GuestSupervisor.Text.Basic
import Mathlib.Data.List.Infix

/-!
# Cutting at a word

A text is cut at the first place where a word begins.  What is written in front of the word must
therefore not begin it: neither inside, nor with its end, the word completing what the front began.
The latter cannot happen to a word that does not overlap itself, and neither can happen if the
front does not hold the character that the word begins with.

## Main Definitions

* `Unbordered` — a word that does not overlap itself.

## Main Statements

* `append_of_splitOnceOn` — nothing is lost but the word.
* `splitOnceOn_of_not_mem` — a front without the first character of the word.
* `splitOnceOn_of_not_infix` — a front without the word, if the word does not overlap itself.
-/

namespace GuestSupervisor.Text

variable {word before after text passed : List Char}

/-! ## Looking for a word -/

theorem seek_cons {c : Char} (elsewhere : ¬word <+: c :: text) :
    splitOnceOn.seek word passed (c :: text) = splitOnceOn.seek word (c :: passed) text := by
  have none : word.isPrefixOf? (c :: text) = none :=
    Option.eq_none_iff_forall_ne_some.mpr fun rest begins =>
      elsewhere ⟨rest, List.isPrefixOf?_eq_some_iff_append_eq.mp begins⟩
  rw [splitOnceOn.seek, none]

/-- A word that is right here is found right here. -/
theorem seek_word (word passed after : List Char) :
    splitOnceOn.seek word passed (word ++ after) = some (passed.reverse, after) := by
  cases whole : word ++ after with
  | nil =>
    obtain ⟨rfl, rfl⟩ := List.append_eq_nil_iff.mp whole
    rfl
  | cons c rest =>
    rw [splitOnceOn.seek, List.isPrefixOf?_eq_some_iff_append_eq.mpr whole]

/-- **A word is found behind what it does not begin in.** -/
theorem seek_append
    (later : ∀ back, back <:+ before → back ≠ [] → ¬word <+: back ++ (word ++ after)) :
    splitOnceOn.seek word passed (before ++ (word ++ after))
      = some (passed.reverse ++ before, after) := by
  induction before generalizing passed with
  | nil => simpa using seek_word word passed after
  | cons c before ih =>
    have elsewhere : ¬word <+: c :: (before ++ (word ++ after)) :=
      later (c :: before) List.suffix_rfl (List.cons_ne_nil _ _)
    rw [List.cons_append, seek_cons elsewhere,
      ih fun back suffix => later back (suffix.trans (List.suffix_cons c before))]
    simp

theorem append_of_seek (found : splitOnceOn.seek word passed text = some (before, after)) :
    passed.reverse ++ text = before ++ (word ++ after) := by
  induction text generalizing passed with
  | nil =>
    cases word with
    | nil =>
      cases found
      simp
    | cons => cases found
  | cons c text ih =>
    unfold splitOnceOn.seek at found
    split at found
    · rename_i rest begins
      cases found
      rw [List.isPrefixOf?_eq_some_iff_append_eq.mp begins]
    · simpa using ih found

/-- **What was cut is the text again when the word is put back.** -/
theorem append_of_splitOnceOn (cut : splitOnceOn word text = some (before, after)) :
    text = before ++ (word ++ after) := by
  simpa using append_of_seek cut

/-! ## Fronts that do not begin the word -/

/-- A text is cut at a word if what is before it does not hold the first character of the word. -/
theorem splitOnceOn_of_not_mem {c : Char} (absent : c ∉ before) (word after : List Char) :
    splitOnceOn (c :: word) (before ++ (c :: word ++ after)) = some (before, after) := by
  refine (seek_append fun back suffix nonempty begins => ?_).trans (by simp)
  obtain ⟨first, rest, rfl⟩ := List.exists_cons_of_ne_nil nonempty
  rw [List.cons_append, List.cons_prefix_cons] at begins
  exact absent (begins.1 ▸ suffix.mem List.mem_cons_self)

/-- **A word that does not overlap itself**: no end of it is a beginning of it, except all of it. -/
def Unbordered (word : List Char) : Prop :=
  ∀ back, back <:+ word → back ≠ [] → back <+: word → back = word

/-- A word does not overlap itself if its last character is in it only once. -/
theorem unbordered_of_last {stem : List Char} {mark : Char} (once : mark ∉ stem) :
    Unbordered (stem ++ [mark]) := by
  intro back suffix nonempty isPrefix
  rcases List.prefix_concat_iff.mp isPrefix with same | short
  · simpa using same
  · refine absurd (short.mem ?_) once
    obtain ⟨front, whole⟩ := suffix
    have last := congrArg List.getLast? whole
    rw [List.getLast?_append_of_ne_nil _ nonempty, List.getLast?_concat] at last
    exact List.mem_of_getLast? last

/-- **A text is cut at a word that does not overlap itself** if the word is not in what is
before. -/
theorem splitOnceOn_of_not_infix (unbordered : Unbordered word) (absent : ¬word <:+: before)
    (after : List Char) :
    splitOnceOn word (before ++ (word ++ after)) = some (before, after) := by
  refine (seek_append fun back suffix nonempty begins => ?_).trans (by simp)
  rcases List.prefix_or_prefix_of_prefix begins (List.prefix_append back _) with inside | beyond
  · exact absent (inside.isInfix.trans suffix.isInfix)
  · -- The word would go on behind the front, so its end would be its own beginning.
    obtain ⟨tail, rfl⟩ := beyond
    rw [List.prefix_append_right_inj] at begins
    by_cases ended : tail = []
    · subst ended
      exact absent (by simpa using suffix.isInfix)
    · have shorter : tail <+: back ++ tail := by
        refine List.prefix_of_prefix_length_le begins (List.prefix_append _ _) (by simp)
      have same := unbordered tail (List.suffix_append back tail) ended shorter
      exact nonempty (by simpa using same)

end GuestSupervisor.Text
