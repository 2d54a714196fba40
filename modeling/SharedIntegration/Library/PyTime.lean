import Mathlib.Data.Int.Basic

/-!
# Python timestamps as text

`datetime.isoformat` for a time in UTC that is given in microseconds since 1970.
-/

namespace PyTime

/-- Microseconds in a second. -/
def second : ℤ := 1000000

/-- Microseconds in a day. -/
def day : ℤ := 86400 * second

/-- Year, month and day of a day counted from 1970; the year is taken to begin in March, in
eras of 400 years. -/
def civil (days : ℤ) : ℤ × ℤ × ℤ :=
  let shifted := days + 719468
  let dayOfEra := shifted % 146097
  let yearOfEra := (dayOfEra - dayOfEra / 1460 + dayOfEra / 36524 - dayOfEra / 146096) / 365
  let dayOfYear := dayOfEra - (365 * yearOfEra + yearOfEra / 4 - yearOfEra / 100)
  let march := (5 * dayOfYear + 2) / 153
  let month := if march < 10 then march + 3 else march - 9
  (yearOfEra + shifted / 146097 * 400 + (if month ≤ 2 then 1 else 0), month,
    dayOfYear - (153 * march + 2) / 5 + 1)

/-- A number with leading zeros. -/
def padded (width : ℕ) (n : ℤ) : String :=
  let text := toString n
  String.ofList (List.replicate (width - text.length) '0') ++ text

/-- `isoformat` of an aware time in UTC; microseconds are left out when there are none. -/
def isoformat (micros : ℤ) : String :=
  let (year, month, date) := civil (micros / day)
  let seconds := micros % day / second
  let fraction := micros % second
  padded 4 year ++ "-" ++ padded 2 month ++ "-" ++ padded 2 date ++ "T" ++ padded 2 (seconds / 3600) ++ ":" ++
    padded 2 (seconds / 60 % 60) ++ ":" ++ padded 2 (seconds % 60) ++
    (if fraction = 0 then "" else "." ++ padded 6 fraction) ++ "+00:00"

end PyTime
