import GuestSupervisor.Text.Numeral

/-!
# Durations

Time spans are whole milliseconds. Their text is the number of seconds with as
many places as it needs, or of milliseconds below one second.

## Main Definitions

* `Milliseconds.text`: `0ns`, `10ms`, `1.5s`, `60s`.
-/

namespace GuestSupervisor.Text

/-- A time span in milliseconds. -/
structure Milliseconds where
  count : UInt64
  deriving DecidableEq, Repr, Inhabited

namespace Milliseconds

/-- The thousandths of a second as decimal places, without zeros at the end. -/
def places (thousandths : Nat) : List Char :=
  let digits := [thousandths / 100, thousandths / 10 % 10, thousandths % 10].map Nat.digitChar
  (digits.reverse.dropWhile (· == '0')).reverse

/-- The text of a time span: nothing at all is `0ns`, less than a second is
counted in milliseconds and the rest in seconds with up to three places. -/
def text (span : Milliseconds) : List Char :=
  let n := span.count.toNat
  if n = 0 then "0ns".toList
  else if n < 1000 then decimal n ++ "ms".toList
  else
    let fraction := places (n % 1000)
    decimal (n / 1000) ++ (if fraction.isEmpty then [] else '.' :: fraction) ++ ['s']

/-- `text` as a string. -/
def render (span : Milliseconds) : String := String.ofList span.text

end Milliseconds

end GuestSupervisor.Text
