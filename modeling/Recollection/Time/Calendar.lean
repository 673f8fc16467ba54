/-!
# The calendar

Days are counted from the first of January 1970, in the Gregorian calendar carried on in both
directions. The year of a day is guessed from the mean length of a year and then corrected; the
guess is off by one at most.
-/

set_option autoImplicit false

namespace Recollection.Calendar

/-- A day by its date. -/
structure Date where
  /-- The year. -/
  year : Int
  /-- The month, from one. -/
  month : Nat
  /-- The day of the month, from one. -/
  day : Nat
deriving DecidableEq, Repr

/-- Whether a year has a leap day. -/
def isLeapYear (year : Int) : Bool :=
  year % 4 == 0 && (year % 100 != 0 || year % 400 == 0)

/-- The lengths of the months of a year. -/
def monthLengths (year : Int) : List Nat :=
  [31, if isLeapYear year then 29 else 28, 31, 30, 31, 30, 31, 31, 30, 31, 30, 31]

/-- The number of leap days before a year, counted from the year one. -/
def leapDaysBefore (year : Int) : Int :=
  (year - 1) / 4 - (year - 1) / 100 + (year - 1) / 400

/-- The day on which a year begins. -/
def yearStart (year : Int) : Int :=
  365 * (year - 1970) + leapDaysBefore year - leapDaysBefore 1970

/-- Whether a date is in the calendar. -/
def Date.isValid (date : Date) : Bool :=
  1 ≤ date.month && 1 ≤ date.day &&
    decide (date.day ≤ (monthLengths date.year).getD (date.month - 1) 0)

/-- The number of a day. -/
def Date.toDay (date : Date) : Int :=
  let monthStart := ((monthLengths date.year).take (date.month - 1)).foldl Nat.add 0
  yearStart date.year + monthStart + date.day - 1

/-- The year of a day. -/
def yearOfDay (day : Int) : Int :=
  let guess := day * 400 / 146097 + 1970
  if day < yearStart guess then guess - 1
  else if yearStart (guess + 1) ≤ day then guess + 1
  else guess

/-- The month and the day of the month of a day counted from the start of the months left, the first
of which has the given number. -/
def monthOfDay (month : Nat) (day : Nat) : (lengths : List Nat) → Nat × Nat
  | [] => (month, day + 1)
  | length :: rest =>
    if day < length then (month, day + 1) else monthOfDay (month + 1) (day - length) rest

/-- The date of a day. -/
def Date.ofDay (day : Int) : Date :=
  let year := yearOfDay day
  let (month, dayOfMonth) := monthOfDay 1 (day - yearStart year).toNat (monthLengths year)
  ⟨year, month, dayOfMonth⟩

end Recollection.Calendar
