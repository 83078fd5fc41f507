import GuestSupervisor.Text.Numeral

/-!
# Timestamps

Moments are counted in milliseconds from the first of January 1970, without leap
seconds, and shown as civil dates.

## Main Definitions

* `Timestamp`: a moment, `Timestamp.date` its civil date.
* `Timestamp.standard`: `2024-02-29T12:00:00.250Z`.
* `Timestamp.compact`: `20240229-120000.250`, for names of files.
-/

namespace GuestSupervisor.Text

/-- A moment, in milliseconds from the start of 1970. -/
structure Timestamp where
  milliseconds : Nat
  deriving DecidableEq, Repr, Inhabited

/-- A day of the civil calendar. -/
structure CivilDate where
  year : Nat
  month : Nat
  day : Nat
  deriving DecidableEq, Repr

/-- The numeral of `n` with zeros in front up to a width. -/
def padded (width n : Nat) : List Char :=
  let digits := decimal n
  List.replicate (width - digits.length) '0' ++ digits

namespace CivilDate

/-- The day that is so many days after the start of 1970. Years are counted from
March, in eras of four hundred of them, so that the leap day is the last day of a
year and an era has always the same length. -/
def ofDays (days : Nat) : CivilDate :=
  let shifted := days + 719468
  let era := shifted / 146097
  let dayOfEra := shifted % 146097
  let yearOfEra := (dayOfEra - dayOfEra / 1460 + dayOfEra / 36524 - dayOfEra / 146096) / 365
  let dayOfYear := dayOfEra - (365 * yearOfEra + yearOfEra / 4 - yearOfEra / 100)
  let monthFromMarch := (5 * dayOfYear + 2) / 153
  let month := if monthFromMarch < 10 then monthFromMarch + 3 else monthFromMarch - 9
  { year := era * 400 + yearOfEra + (if month ≤ 2 then 1 else 0)
    month
    day := dayOfYear - (153 * monthFromMarch + 2) / 5 + 1 }

example : ofDays 0 = ⟨1970, 1, 1⟩ := by decide

example : ofDays 19782 = ⟨2024, 2, 29⟩ := by decide

end CivilDate

namespace Timestamp

/-- The day of a moment. -/
def date (t : Timestamp) : CivilDate := .ofDays (t.milliseconds / 86400000)

/-- Hour, minute and second of a moment. -/
def clock (t : Timestamp) : Nat × Nat × Nat :=
  let seconds := t.milliseconds / 1000 % 86400
  (seconds / 3600, seconds / 60 % 60, seconds % 60)

/-- A moment as the API shows it; milliseconds are left out when there are none. -/
def standard (t : Timestamp) : String :=
  let (hour, minute, second) := t.clock
  let rest := t.milliseconds % 1000
  String.ofList
    (padded 4 t.date.year ++ '-' :: padded 2 t.date.month ++ '-' :: padded 2 t.date.day
      ++ 'T' :: padded 2 hour ++ ':' :: padded 2 minute ++ ':' :: padded 2 second
      ++ (if rest = 0 then [] else '.' :: padded 3 rest) ++ ['Z'])

/-- A moment as part of the name of a file. -/
def compact (t : Timestamp) : String :=
  let (hour, minute, second) := t.clock
  String.ofList
    (padded 4 t.date.year ++ padded 2 t.date.month ++ padded 2 t.date.day
      ++ '-' :: padded 2 hour ++ padded 2 minute ++ padded 2 second
      ++ '.' :: padded 3 (t.milliseconds % 1000))

end Timestamp

end GuestSupervisor.Text
