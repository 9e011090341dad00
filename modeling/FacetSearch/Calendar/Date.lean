/-!
# Calendar dates

The proleptic Gregorian calendar: dates as year, month and day, and their position in the count
of days, where day 0 is 1 January of the year 1.
-/

namespace FacetSearch.Calendar

structure Date where
  year : Int
  month : Nat
  day : Nat
  deriving DecidableEq, Repr

def isLeapYear (year : Int) : Bool :=
  year % 4 = 0 && (year % 100 ≠ 0 || year % 400 = 0)

def daysInMonth (year : Int) : Nat → Nat
  | 2 => if isLeapYear year then 29 else 28
  | 4 | 6 | 9 | 11 => 30
  | _ => 31

/-- The day is one of its month, the month one of the twelve. -/
def Date.Valid (d : Date) : Prop :=
  1 ≤ d.month ∧ d.month ≤ 12 ∧ 1 ≤ d.day ∧ d.day ≤ daysInMonth d.year d.month

instance (d : Date) : Decidable d.Valid := inferInstanceAs (Decidable (_ ∧ _))

/-- Days before 1 January of a year. -/
def daysBeforeYear (year : Int) : Int :=
  let past := year - 1
  365 * past + past / 4 - past / 100 + past / 400

/-- Days before the first of a month, within its year. -/
def daysBeforeMonth (year : Int) : Nat → Nat
  | 0 | 1 => 0
  | month + 1 => daysBeforeMonth year month + daysInMonth year month

def Date.dayNumber (d : Date) : Int :=
  daysBeforeYear d.year + daysBeforeMonth d.year d.month + (d.day - 1 : Nat)

/-- The year of a day: a mean year has 146097 days in four centuries, which is off by at most
one year. -/
def yearOfDay (day : Int) : Int :=
  let guess := day * 400 / 146097 + 1
  if day < daysBeforeYear guess then guess - 1
  else if daysBeforeYear (guess + 1) ≤ day then guess + 1
  else guess

/-- The month and day of month of the day at a position in its year. -/
def monthOfDay (year : Int) (position : Nat) : Nat → Nat × Nat
  | 0 => (1, position + 1)
  | month + 1 =>
    if daysBeforeMonth year (month + 1) ≤ position then
      (month + 1, position - daysBeforeMonth year (month + 1) + 1)
    else monthOfDay year position month

/-- The date of a day. -/
def Date.ofDayNumber (day : Int) : Date :=
  let year := yearOfDay day
  let (month, dayOfMonth) := monthOfDay year (day - daysBeforeYear year).toNat 12
  ⟨year, month, dayOfMonth⟩

/-- The day number of 1 January 1970. -/
def epochDay : Int := 719162

example : (Date.mk 1970 1 1).dayNumber = epochDay := by decide
example : Date.ofDayNumber (Date.mk 2024 2 29).dayNumber = ⟨2024, 2, 29⟩ := by decide
example : Date.ofDayNumber (Date.mk (-1) 12 31).dayNumber = ⟨-1, 12, 31⟩ := by decide

end FacetSearch.Calendar
