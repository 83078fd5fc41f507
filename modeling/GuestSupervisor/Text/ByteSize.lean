import GuestSupervisor.Text.Numeral

/-!
# Sizes for people

A size in bytes is shown with one decimal place in the largest binary unit that
leaves it below 1024. The number is first rounded to fifty-three significant
bits, and the place is then rounded to nearest; both ties go to the even
neighbour.

## Main Definitions

* `roundDivEven`: a quotient rounded to nearest, ties to even.
* `roundToBits`: a number rounded to so many significant bits.
* `ByteSize.unit`, `ByteSize.tenths`: the unit chosen and the tenths shown.
* `ByteSize.text`: the text itself.

## Design Notes

Dividing by a power of 1024 is exact on a number of fifty-three significant bits,
so one exact fraction, `rounded / 1024 ^ unit`, carries the whole computation and
only its last step rounds again.
-/

namespace GuestSupervisor.Text

/-- `num / den` rounded to the nearest whole number, a tie to the even one. -/
def roundDivEven (num den : Nat) : Nat :=
  let quotient := num / den
  let twice := 2 * (num % den)
  if twice < den then quotient
  else if den < twice then quotient + 1
  else if quotient % 2 = 0 then quotient else quotient + 1

/-- `n` rounded to `bits` significant binary digits, a tie to the even one. -/
def roundToBits (bits n : Nat) : Nat :=
  let excess := n.log2 + 1 - bits
  roundDivEven n (Nat.pow 2 excess) * Nat.pow 2 excess

namespace ByteSize

/-- The names of the units, from bytes up. -/
def unitNames : List String := ["B", "KB", "MB", "GB", "TB", "PB"]

/-- The size as it enters the division: fifty-three significant bits. -/
def rounded (bytes : UInt64) : Nat := roundToBits 53 bytes.toNat

/-- The least unit, counted from bytes, in which the number stays below 1024; at
most `limit`. -/
def unitBelow (n : Nat) : Nat → Nat
  | 0 => 0
  | limit + 1 => if n < 1024 then 0 else unitBelow (n / 1024) limit + 1

/-- The unit a size is shown in. -/
def unit (bytes : UInt64) : Nat := unitBelow (rounded bytes) 5

/-- The number shown, in tenths of the unit. -/
def tenths (bytes : UInt64) : Nat := roundDivEven (rounded bytes * 10) (Nat.pow 1024 (unit bytes))

/-- The size as text, such as `1.5 KB`. -/
def text (bytes : UInt64) : List Char :=
  let n := tenths bytes
  decimal (n / 10) ++ '.' :: decimal (n % 10) ++ ' ' :: ((unitNames[unit bytes]?).getD "").toList

/-- `text` as a string. -/
def render (bytes : UInt64) : String := String.ofList (text bytes)

end ByteSize

end GuestSupervisor.Text
