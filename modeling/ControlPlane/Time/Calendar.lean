/-!
# The calendar

Dates of the Gregorian calendar, extended to all years, and their numbers: days counted from
1970-01-01. A year is a leap year if it is divisible by 4, but not by 100 unless also by 400.
-/
namespace ControlPlane

/-- A date. -/
structure Date where
  /-- The year, which may be before the year 0. -/
  year : Int
  /-- The month, from 1 on. -/
  month : Nat
  /-- The day of the month, from 1 on. -/
  day : Nat
deriving DecidableEq, Repr

namespace Date

/-- Whether a year has a 29th of February. -/
def isLeapYear (year : Int) : Bool := year % 4 = 0 && (year % 100 ≠ 0 || year % 400 = 0)

/-- The lengths of the months of a year. -/
def monthLengths (leap : Bool) : List Nat :=
  [31, if leap then 29 else 28, 31, 30, 31, 30, 31, 31, 30, 31, 30, 31]

/-- The number of days in a month, zero if there is no such month. -/
def daysInMonth (year : Int) (month : Nat) : Nat :=
  if month = 0 then 0 else (monthLengths (isLeapYear year)).getD (month - 1) 0

/-- The date exists. -/
def Valid (date : Date) : Prop :=
  1 ≤ date.month ∧ date.month ≤ 12 ∧ 1 ≤ date.day ∧ date.day ≤ daysInMonth date.year date.month

/-- Whether there is such a date can be decided. -/
instance (date : Date) : Decidable date.Valid :=
  inferInstanceAs (Decidable (_ ∧ _ ∧ _ ∧ _))

/-- The days from 0001-01-01 to the first day of a year. -/
def daysBeforeYear (year : Int) : Int :=
  let years := year - 1
  365 * years + years / 4 - years / 100 + years / 400

/-- The days of a year before a month. -/
def daysBeforeMonth (year : Int) (month : Nat) : Nat :=
  ((monthLengths (isLeapYear year)).take (month - 1)).foldl (· + ·) 0

/-- The number of 1970-01-01 when 0001-01-01 has the number zero. -/
def epoch : Int := 719162

/-- The number of a date. -/
def number (date : Date) : Int :=
  daysBeforeYear date.year + daysBeforeMonth date.year date.month + (date.day - 1) - epoch

/-- The month and day of a day of the year that is counted from zero. -/
def ofDayOfYear : List Nat → Nat → Nat → Nat × Nat
  | [], month, day => (month, day + 1)
  | length :: rest, month, day =>
    if day < length then (month, day + 1) else ofDayOfYear rest (month + 1) (day - length)

/-- The year of a day counted from 0001-01-01, and the days of that year before it. The calendar
repeats after 400 years; the last of four centuries and the last of four years are a day longer. -/
def yearOfDay (day : Int) : Int × Nat :=
  let cycle := day / 146097
  let inCycle := (day % 146097).toNat
  let century := min (inCycle / 36524) 3
  let inCentury := inCycle - century * 36524
  let quad := inCentury / 1461
  let inQuad := inCentury - quad * 1461
  let year := min (inQuad / 365) 3
  (cycle * 400 + (century * 100 + quad * 4 + year + 1 : Nat), inQuad - year * 365)

/-- The date with a number. -/
def ofNumber (number : Int) : Date :=
  let (year, dayOfYear) := yearOfDay (number + epoch)
  let (month, day) := ofDayOfYear (monthLengths (isLeapYear year)) 1 dayOfYear
  ⟨year, month, day⟩

end Date

end ControlPlane
