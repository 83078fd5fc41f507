/-!
# Numerals

Decimal numerals for natural numbers, and the bounded reading of them that the
configuration file, the display probe and the HTTP query share.

## Main Definitions

* `decimal`: the shortest numeral of a number.
* `readDigits?`: the value of one or more ASCII digits.
* `readUnsigned?`: the same with an optional plus sign in front and a bound.

## Design Notes

A minus sign is never read, not even before zero, and neither are digits outside
ASCII. Leading zeros are.
-/

namespace GuestSupervisor.Text

/-- The decimal numeral of `n`, without leading zeros. -/
def decimal (n : Nat) : List Char := Nat.toDigits 10 n

/-- The value of a run of decimal digits. -/
def digitsValue (digits : List Char) : Nat :=
  digits.foldl (fun value c => 10 * value + (c.toNat - '0'.toNat)) 0

/-- The value of a text of one or more ASCII digits. -/
def readDigits? (text : List Char) : Option Nat :=
  if !text.isEmpty && text.all Char.isDigit then some (digitsValue text) else none

/-- A text without one leading plus sign. -/
def dropPlus : List Char → List Char
  | '+' :: rest => rest
  | text => text

/-- The value of an optional plus sign and one or more ASCII digits, when it is
below `bound`. -/
def readUnsigned? (bound : Nat) (text : List Char) : Option Nat :=
  (readDigits? (dropPlus text)).filter (· < bound)

/-- `readUnsigned?` for thirty-two bits. -/
def readUInt32? (text : List Char) : Option UInt32 :=
  (readUnsigned? UInt32.size text).map UInt32.ofNat

/-- `readUnsigned?` for sixty-four bits. -/
def readUInt64? (text : List Char) : Option UInt64 :=
  (readUnsigned? UInt64.size text).map UInt64.ofNat

/-! ### First facts -/

@[simp] theorem readDigits?_nil : readDigits? [] = none := rfl

theorem readUnsigned?_lt {bound n : Nat} {text : List Char}
    (h : readUnsigned? bound text = some n) : n < bound := by
  simp only [readUnsigned?, Option.filter_eq_some_iff, decide_eq_true_eq] at h
  exact h.2

end GuestSupervisor.Text
