import GuestSupervisor.Json.Reading
import GuestSupervisor.Toml.Value

/-!
# TOML numbers and dates

Integers in four bases, floating-point numbers, and dates and times, each as a
reader from the start of a text.

## Main Definitions

* `integer?`, `float?`, `datetime?`.
* `number?`: whichever of them fits, dates first.

## Design Notes

Of floating-point numbers and dates only the text is kept, but a number too large
and a date that does not exist are refused.
-/

namespace GuestSupervisor.Toml

open Text

/-! ### Digits -/

/-- More digits, an underscore allowed between two of them. `seen` holds those so
far, last first. -/
def moreDigits (isDigit : Char → Bool) (seen : List Char) :
    List Char → Option (List Char × List Char)
  | [] => some (seen.reverse, [])
  | '_' :: rest =>
    match rest with
    | [] => none
    | c :: rest => if isDigit c then moreDigits isDigit (c :: seen) rest else none
  | c :: rest =>
    if isDigit c then moreDigits isDigit (c :: seen) rest else some (seen.reverse, c :: rest)

/-- One or more digits. -/
def digitRun? (isDigit : Char → Bool) : List Char → Option (List Char × List Char)
  | [] => none
  | c :: rest => if isDigit c then moreDigits isDigit [c] rest else none

/-- The digits of a decimal number: zero alone, or digits that start with another. -/
def wholeDigits? : List Char → Option (List Char × List Char)
  | '0' :: rest => some (['0'], rest)
  | text => digitRun? Char.isDigit text

/-- A sign, where there is one: whether it is a minus, and what follows. -/
def sign : List Char → Bool × List Char
  | '-' :: rest => (true, rest)
  | '+' :: rest => (false, rest)
  | text => (false, text)

/-! ### Integers -/

/-- The value of digits in a base. -/
def valueInBase (base : Nat) (digits : List Char) : Nat :=
  digits.foldl (fun n c => base * n + (hexValue? c).getD 0) 0

/-- An integer, if it is in range. -/
def ranged (n : Int) (rest : List Char) : Option (Int × List Char) :=
  if inRange n then some (n, rest) else none

/-- An integer in another base than ten, read behind its two-character mark. -/
def basedInteger? (base : Nat) (text : List Char) : Option (Int × List Char) := do
  let (digits, rest) ← digitRun? (fun c => (hexValue? c).any (· < base)) text
  ranged (valueInBase base digits) rest

/-- An integer at the start of a text. -/
def integer? : List Char → Option (Int × List Char)
  | '0' :: 'x' :: rest => basedInteger? 16 rest
  | '0' :: 'o' :: rest => basedInteger? 8 rest
  | '0' :: 'b' :: rest => basedInteger? 2 rest
  | text => do
    let (negative, rest) := sign text
    let (digits, rest) ← wholeDigits? rest
    let n : Int := digitsValue digits
    ranged (if negative then -n else n) rest

/-! ### Floating-point numbers -/

/-- The exponent of a number. -/
def exponent? : List Char → Option (Int × List Char)
  | e :: rest =>
    if e = 'e' ∨ e = 'E' then do
      let (negative, rest) := sign rest
      let (digits, rest) ← digitRun? Char.isDigit rest
      let n : Int := digitsValue digits
      some (if negative then -n else n, rest)
    else none
  | [] => none

/-- A number with a point or an exponent. A positive one beyond every number is
refused. -/
def decimalFloat? (text : List Char) : Option (List Char) := do
  let (negative, rest) := sign text
  let (whole, rest) ← wholeDigits? rest
  let (places, exponent, rest) ← match rest with
    | '.' :: rest => do
      let (places, rest) ← digitRun? Char.isDigit rest
      match exponent? rest with
      | some (exponent, rest) => some (places, exponent, rest)
      | none => some (places, (0 : Int), rest)
    | rest => (exponent? rest).map fun (exponent, rest) => (([] : List Char), exponent, rest)
  if negative || Reading.isFinite (digitsValue (whole ++ places)) (exponent - places.length) then
    some rest
  else none

/-- One of the words for what is no ordinary number. -/
def specialFloat? (text : List Char) : Option (List Char) :=
  let rest := (sign text).2
  ("inf".toList.isPrefixOf? rest).or ("nan".toList.isPrefixOf? rest)

/-- What follows a floating-point number. -/
def float? (text : List Char) : Option (List Char) := (decimalFloat? text).or (specialFloat? text)

/-! ### Dates and times -/

/-- A number of exactly `count` digits between two bounds. -/
def field? (count low high : Nat) (text : List Char) : Option (Nat × List Char) :=
  let digits := text.take count
  let n := digitsValue digits
  if digits.length = count ∧ digits.all Char.isDigit ∧ low ≤ n ∧ n ≤ high then
    some (n, text.drop count)
  else none

/-- What follows a given character. -/
def after? (mark : Char) : List Char → Option (List Char)
  | c :: rest => if c = mark then some rest else none
  | [] => none

/-- The number of days in a month. -/
def daysIn (year month : Nat) : Nat :=
  let leap := year % 4 = 0 && (year % 100 != 0 || year % 400 = 0)
  if month = 2 then (if leap then 29 else 28)
  else if month ∈ [4, 6, 9, 11] then 30 else 31

/-- What follows a date. -/
def date? (text : List Char) : Option (List Char) := do
  let (year, rest) ← field? 4 0 9999 text
  let rest ← after? '-' rest
  let (month, rest) ← field? 2 1 12 rest
  let rest ← after? '-' rest
  let (_, rest) ← field? 2 1 (daysIn year month) rest
  some rest

/-- What follows the decimal places of a second, where there are any. -/
def places? : List Char → Option (List Char)
  | '.' :: rest =>
    if (rest.takeWhile Char.isDigit).isEmpty then none else some (rest.dropWhile Char.isDigit)
  | text => some text

/-- What follows a time of day. -/
def time? (text : List Char) : Option (List Char) := do
  let (_, rest) ← field? 2 0 23 text
  let rest ← after? ':' rest
  let (_, rest) ← field? 2 0 59 rest
  let rest ← after? ':' rest
  let (_, rest) ← field? 2 0 60 rest
  places? rest

/-- What follows the offset of a time zone, where there is one. -/
def offset? : List Char → Option (List Char)
  | c :: rest =>
    if c = 'Z' ∨ c = 'z' then some rest
    else if c = '+' ∨ c = '-' then do
      let (_, rest) ← field? 2 0 23 rest
      let rest ← after? ':' rest
      let (_, rest) ← field? 2 0 59 rest
      some rest
    else some (c :: rest)
  | [] => some []

/-- What follows the time behind a date, where there is one. -/
def timeOfDate : List Char → List Char
  | c :: rest =>
    if c = 'T' ∨ c = 't' ∨ c = ' ' then ((time? rest).bind offset?).getD (c :: rest) else c :: rest
  | [] => []

/-- What follows a date, a time or both. -/
def datetime? (text : List Char) : Option (List Char) := ((date? text).map timeOfDate).or (time? text)

/-! ### Either -/

/-- The part of a text in front of its rest, as a string. -/
def partBefore (text rest : List Char) : String :=
  String.ofList (text.take (text.length - rest.length))

/-- A number or a date at the start of a text. -/
def number? (text : List Char) : Option (Value × List Char) :=
  match datetime? text with
  | some rest => some (.datetime (partBefore text rest), rest)
  | none =>
    match float? text with
    | some rest => some (.float (partBefore text rest), rest)
    | none => (integer? text).map fun (n, rest) => (.integer n, rest)

end GuestSupervisor.Toml
