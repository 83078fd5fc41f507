import GuestSupervisor.Text.Basic
import GuestSupervisor.Text.Numeral
import Mathlib.Data.List.Infix
import Mathlib.Data.List.TakeWhile

/-!
# What is written in lines is read in lines

Cutting a text at a mark undoes writing pieces with the mark behind them, as long as the
pieces do not hold the mark, and a numeral is read as the number that it was written for.

## Main Statements

* `lines_flatMap` — the lines of a text that was written line by line.
* `eq_intercalate_lines` — a text without carriage returns is its lines and the line feeds between
  them.
* `splitOnce_append`, `splitOnce_eq_some_iff` — cutting at the first mark.
* `readUInt32?_decimal` — reading a numeral.
-/

namespace GuestSupervisor.Text

variable {mark : Char} {before after : List Char}

/-! ## Cutting -/

/-- A text is cut at the first mark into what is before it and what is after it. -/
theorem splitOnce_append (absent : mark ∉ before) (after : List Char) :
    splitOnce mark (before ++ mark :: after) = some (before, after) := by
  have others : ∀ c ∈ before, (c != mark) = true := by
    intro c member
    rw [bne_iff_ne]
    rintro rfl
    exact absent member
  simp [splitOnce, List.dropWhile_append_of_pos others, List.takeWhile_append_of_pos others]

/-- **Cutting at a mark is cutting at the first one.** -/
theorem splitOnce_eq_some_iff {text : List Char} :
    splitOnce mark text = some (before, after) ↔
      text = before ++ mark :: after ∧ mark ∉ before := by
  constructor
  · intro cut
    have whole := (append_of_splitOnce cut).symm
    obtain ⟨first, rest, same, absent⟩ :=
      List.eq_append_cons_of_mem (show mark ∈ text by rw [whole]; simp)
    rw [same, splitOnce_append absent] at cut
    obtain ⟨rfl, rfl⟩ := Prod.mk.inj (Option.some.inj cut)
    exact ⟨whole, absent⟩
  · rintro ⟨rfl, absent⟩
    exact splitOnce_append absent after

theorem segments_cons_mark (mark : Char) (text : List Char) :
    segments mark (mark :: text) = [] :: segments mark text := by
  simp [segments]

theorem segments_cons_of_ne {c : Char} (other : c ≠ mark) {text piece : List Char}
    {pieces : List (List Char)} (rest : segments mark text = piece :: pieces) :
    segments mark (c :: text) = (c :: piece) :: pieces := by
  unfold segments at rest ⊢
  rw [List.foldr_cons, rest]
  simp [other]

/-- The segments of two texts with a mark in between are those of the one and of the other. -/
theorem segments_append_mark (mark : Char) (before after : List Char) :
    segments mark (before ++ mark :: after) = segments mark before ++ segments mark after := by
  induction before with
  | nil => exact segments_cons_mark mark after
  | cons c before ih =>
    by_cases same : c = mark
    · subst same
      rw [List.cons_append, segments_cons_mark, segments_cons_mark, ih, List.cons_append]
    · obtain ⟨piece, pieces, cut⟩ := List.exists_cons_of_ne_nil (segments_ne_nil mark before)
      rw [cut, List.cons_append] at ih
      rw [List.cons_append, segments_cons_of_ne same ih, segments_cons_of_ne same cut,
        List.cons_append]

theorem segments_of_not_mem (absent : mark ∉ before) : segments mark before = [before] := by
  induction before with
  | nil => rfl
  | cons c before ih =>
    obtain ⟨other, absent⟩ := List.ne_and_not_mem_of_not_mem_cons absent
    exact segments_cons_of_ne other.symm (ih absent)

/-- What is before the first mark is the first segment. -/
theorem segments_append (absent : mark ∉ before) (after : List Char) :
    segments mark (before ++ mark :: after) = before :: segments mark after := by
  rw [segments_append_mark, segments_of_not_mem absent, List.singleton_append]

/-- No segment holds the mark. -/
theorem not_mem_of_mem_segments {text piece : List Char} (member : piece ∈ segments mark text) :
    mark ∉ piece := by
  induction text generalizing piece with
  | nil =>
    obtain rfl : piece = [] := by simpa using member
    simp
  | cons c text ih =>
    by_cases same : c = mark
    · subst same
      rw [segments_cons_mark] at member
      rcases List.mem_cons.mp member with rfl | later
      · simp
      · exact ih later
    · obtain ⟨first, others, cut⟩ := List.exists_cons_of_ne_nil (segments_ne_nil mark text)
      rw [segments_cons_of_ne same cut] at member
      rcases List.mem_cons.mp member with rfl | later
      · have rest : mark ∉ first := ih (by rw [cut]; exact List.mem_cons_self)
        simp [Ne.symm same, rest]
      · exact ih (by rw [cut]; exact List.mem_cons_of_mem first later)

theorem dropReturn_of_ne (noReturn : before.getLast? ≠ some '\r') : dropReturn before = before := by
  simp [dropReturn, noReturn]

/-- What is before the first line feed is the first line, but for a carriage return at its end. -/
theorem lines_append_feed (oneLine : '\n' ∉ before) (after : List Char) :
    lines (before ++ '\n' :: after) = dropReturn before :: lines after := by
  obtain ⟨piece, pieces, rest⟩ := List.exists_cons_of_ne_nil (segments_ne_nil '\n' after)
  simp only [lines, segments_append oneLine, rest, List.dropLast_cons_cons, List.map_cons,
    List.getLast?_cons_cons, List.cons_append]

/-- What is before the first line feed is the first line. -/
theorem lines_append (oneLine : '\n' ∉ before) (noReturn : before.getLast? ≠ some '\r')
    (after : List Char) : lines (before ++ '\n' :: after) = before :: lines after := by
  rw [lines_append_feed oneLine, dropReturn_of_ne noReturn]

/-- **What is written line by line is read line by line.** -/
theorem lines_flatMap (texts : List (List Char))
    (oneLine : ∀ text ∈ texts, '\n' ∉ text ∧ '\r' ∉ text) :
    lines (texts.flatMap fun text => text ++ ['\n']) = texts := by
  induction texts with
  | nil => rfl
  | cons text texts ih =>
    obtain ⟨noFeed, noReturn⟩ := oneLine text List.mem_cons_self
    rw [List.flatMap_cons, List.append_assoc, List.singleton_append,
      lines_append noFeed fun last => noReturn (List.mem_of_getLast? last),
      ih fun other member => oneLine other (List.mem_cons_of_mem text member)]

/-- A text that ends no line is one line, unless it is empty. -/
theorem lines_of_not_mem (absent : '\n' ∉ before) :
    lines before = if before = [] then [] else [before] := by
  unfold lines
  rw [segments_of_not_mem absent]
  cases before <;> simp

/-- The lines of texts, each with a line feed behind it, come before the lines of what follows. -/
theorem lines_flatMap_append (texts : List (List Char)) (oneLine : ∀ text ∈ texts, '\n' ∉ text)
    (after : List Char) :
    lines ((texts.flatMap fun text => text ++ ['\n']) ++ after)
      = texts.map dropReturn ++ lines after := by
  induction texts with
  | nil => rfl
  | cons text texts ih =>
    rw [List.flatMap_cons, List.append_assoc, List.append_assoc, List.singleton_append,
      lines_append_feed (oneLine text List.mem_cons_self),
      ih fun other member => oneLine other (List.mem_cons_of_mem text member), List.map_cons,
      List.cons_append]

/-- **The first line of a text goes on** at least to a character that ends no line. -/
theorem exists_lines_append {c : Char} (oneLine : '\n' ∉ before) (inner : c ≠ '\n' ∧ c ≠ '\r')
    (after : List Char) :
    ∃ more others, lines (before ++ c :: after) = (before ++ c :: more) :: others := by
  by_cases ended : '\n' ∈ after
  · obtain ⟨more, rest, rfl, absent⟩ := List.eq_append_cons_of_mem ended
    have front : '\n' ∉ before ++ c :: more := by simp [oneLine, absent, inner.1.symm]
    have whole : before ++ c :: (more ++ '\n' :: rest) = (before ++ c :: more) ++ '\n' :: rest := by
      simp
    rw [whole, lines_append_feed front]
    by_cases returned : (before ++ c :: more).getLast? = some '\r'
    · -- The carriage return is not the character itself, so it is behind it.
      have some : more ≠ [] := by
        rintro rfl
        simp [inner.2] at returned
      refine ⟨more.dropLast, lines rest, ?_⟩
      rw [dropReturn, if_pos returned, List.dropLast_append_of_ne_nil (List.cons_ne_nil _ _),
        List.dropLast_cons_of_ne_nil some]
    · exact ⟨more, lines rest, by rw [dropReturn_of_ne returned]⟩
  · have absent : '\n' ∉ before ++ c :: after := by simp [oneLine, ended, inner.1.symm]
    refine ⟨after, [], ?_⟩
    rw [lines_of_not_mem absent, if_neg (by simp)]

/-- No line holds a line feed. -/
theorem not_mem_of_mem_lines {text line : List Char} (member : line ∈ lines text) :
    '\n' ∉ line := by
  rcases List.mem_append.mp member with ended | last
  · obtain ⟨piece, cut, rfl⟩ := List.mem_map.mp ended
    have absent := not_mem_of_mem_segments (List.mem_of_mem_dropLast cut)
    unfold dropReturn
    split
    · exact fun inner => absent (List.mem_of_mem_dropLast inner)
    · exact absent
  · have cut := Option.mem_toList.mp (List.mem_filter.mp last).1
    exact not_mem_of_mem_segments (List.mem_of_getLast? cut)

theorem lines_eq_nil_iff : lines before = [] ↔ before = [] := by
  by_cases ended : '\n' ∈ before
  · obtain ⟨line, rest, rfl, -⟩ := List.eq_append_cons_of_mem ended
    obtain ⟨piece, pieces, cut⟩ := List.exists_cons_of_ne_nil (segments_ne_nil '\n' rest)
    simp [lines, segments_append_mark, cut, segments_ne_nil]
  · rw [lines_of_not_mem ended]
    split <;> simp [*]

/-- **A text without carriage returns is its lines and the line feeds between them**, and perhaps
one more behind the last line. -/
theorem eq_intercalate_lines {text : List Char} (noReturn : '\r' ∉ text) :
    text = ['\n'].intercalate (lines text) ∨ text = ['\n'].intercalate (lines text) ++ ['\n'] := by
  induction length : text.length using Nat.strongRecOn generalizing text with
  | _ n ih =>
    subst length
    by_cases ended : '\n' ∈ text
    · obtain ⟨line, rest, rfl, oneLine⟩ := List.eq_append_cons_of_mem ended
      have noReturn' : '\r' ∉ line ∧ '\r' ∉ rest := by simpa using noReturn
      rw [lines_append oneLine fun last => noReturn'.1 (List.mem_of_getLast? last)]
      cases others : lines rest with
      | nil =>
        rw [lines_eq_nil_iff.mp others]
        simp
      | cons next others' =>
        have shorter := ih rest.length (by simp; omega) noReturn'.2 rfl
        rw [others] at shorter
        rw [List.intercalate_cons_cons]
        rcases shorter with same | same
        · exact .inl (by simp [← same])
        · exact .inr (by simp [same])
    · left
      rw [lines_of_not_mem ended]
      split <;> simp [*]

/-! ## Numerals -/

theorem isDigit_of_mem_decimal {n : Nat} {c : Char} (member : c ∈ decimal n) : c.isDigit :=
  Nat.isDigit_of_mem_toDigits (by omega) (by omega) member

/-- **A numeral is read as its number.** -/
theorem readDigits?_decimal (n : Nat) : readDigits? (decimal n) = some n := by
  have digits : (decimal n).all Char.isDigit := List.all_eq_true.mpr fun c => isDigit_of_mem_decimal
  have nonempty : decimal n ≠ [] := Nat.toDigits_ne_nil
  have value : digitsValue (decimal n) = n := Nat.ofDigitChars_ten_toDigits
  simp [readDigits?, digits, nonempty, value]

/-- Numbers with one numeral are one number. -/
theorem decimal_inj {m n : Nat} (same : decimal m = decimal n) : m = n := by
  have read := congrArg readDigits? same
  rw [readDigits?_decimal, readDigits?_decimal] at read
  exact Option.some.inj read

/-- Digits do not begin with a sign. -/
theorem dropPlus_of_isDigit {digits : List Char} (all : ∀ d ∈ digits, d.isDigit) :
    dropPlus digits = digits := by
  unfold dropPlus
  split
  · exact absurd (all '+' List.mem_cons_self) (by decide)
  · rfl

theorem readUInt32?_decimal (n : UInt32) : readUInt32? (decimal n.toNat) = some n := by
  have small : n.toNat < UInt32.size := n.toNat_lt
  have read : readUnsigned? UInt32.size (decimal n.toNat) = some n.toNat := by
    unfold readUnsigned?
    rw [dropPlus_of_isDigit fun d => isDigit_of_mem_decimal, readDigits?_decimal]
    exact Option.filter_eq_some_iff.mpr ⟨rfl, by simpa using small⟩
  simp [readUInt32?, read]

end GuestSupervisor.Text
