import GuestSupervisor.Proofs.Text.Lines
import Mathlib.Data.List.Induction
import Mathlib.Data.Nat.Digits.Defs

/-!
# Numerals that are read

A numeral is one or more digits, perhaps behind a plus sign.  It is read as the number that its
digits are in the decimal system, however many zeros are in front, unless that is too large.

## Main Definitions

* `IsNumeral` — a text is a numeral of a number.

## Main Statements

* `readUnsigned?_eq_some_iff`, `readUInt32?_eq_some_iff` — exactly the numerals are read.
-/

namespace GuestSupervisor.Text

variable {text digits : List Char} {n bound : Nat}

/-- **A text is a numeral of a number**: one or more digits of its decimal expansion, perhaps behind
a plus sign. -/
def IsNumeral (text : List Char) (n : Nat) : Prop :=
  ∃ digits : List Char, digits ≠ [] ∧ (∀ d ∈ digits, d.isDigit) ∧
    (text = digits ∨ text = '+' :: digits) ∧
    Nat.ofDigits 10 (digits.reverse.map fun d => d.toNat - '0'.toNat) = n

/-- The value of digits is the number with these digits, the last one first. -/
theorem ofDigits_eq_digitsValue (digits : List Char) :
    Nat.ofDigits 10 (digits.reverse.map fun d => d.toNat - '0'.toNat) = digitsValue digits := by
  induction digits using List.reverseRecOn with
  | nil => rfl
  | append_singleton digits d ih =>
    rw [List.reverse_append, List.reverse_singleton, List.singleton_append, List.map_cons,
      Nat.ofDigits_cons, ih]
    simp only [digitsValue, List.foldl_append, List.foldl_cons, List.foldl_nil]
    omega

theorem readDigits?_eq_some_iff :
    readDigits? digits = some n ↔
      digits ≠ [] ∧ (∀ d ∈ digits, d.isDigit) ∧ digitsValue digits = n := by
  simp [readDigits?, and_assoc]

/-- **What is read for a number without a sign**: its numerals, if it is small enough. -/
theorem readUnsigned?_eq_some_iff :
    readUnsigned? bound text = some n ↔ IsNumeral text n ∧ n < bound := by
  simp only [readUnsigned?, Option.filter_eq_some_iff, readDigits?_eq_some_iff, decide_eq_true_eq,
    IsNumeral, ofDigits_eq_digitsValue]
  refine and_congr_left fun _ => ⟨?_, ?_⟩
  · rintro ⟨nonempty, digits, value⟩
    refine ⟨dropPlus text, nonempty, digits, ?_, value⟩
    unfold dropPlus
    split
    · exact .inr rfl
    · exact .inl rfl
  · rintro ⟨digits, nonempty, all, rfl | rfl, value⟩
    · rw [dropPlus_of_isDigit all]
      exact ⟨nonempty, all, value⟩
    · exact ⟨nonempty, all, value⟩

/-- **What is read for a number of thirty-two bits**: its numerals. -/
theorem readUInt32?_eq_some_iff {n : UInt32} :
    readUInt32? text = some n ↔ IsNumeral text n.toNat := by
  simp only [readUInt32?, Option.map_eq_some_iff, readUnsigned?_eq_some_iff]
  constructor
  · rintro ⟨m, ⟨numeral, small⟩, rfl⟩
    rwa [UInt32.toNat_ofNat', Nat.mod_eq_of_lt small]
  · intro numeral
    exact ⟨n.toNat, ⟨numeral, n.toNat_lt⟩, UInt32.ofNat_toNat⟩

end GuestSupervisor.Text
