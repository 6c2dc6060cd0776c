/-!
# Days of the calendar

The Gregorian calendar, extended to all years that a moment can lie in. The year
before the year 1 is the year 0, and years before it are negative.
-/

namespace Rollup

/-- A day, by its year, month and day of the month, which count from 1. -/
structure Date where
  year : Int
  month : Nat
  day : Nat
  deriving DecidableEq, Repr

namespace Date

/-- The first year that is covered. -/
def firstYear : Int :=
  -262143

/-- The last year that is covered. -/
def lastYear : Int :=
  262142

/-- Whether a year has a 29th of February. -/
def isLeapYear (year : Int) : Bool :=
  year % 4 == 0 && (year % 100 != 0 || year % 400 == 0)

def daysInMonth (year : Int) (month : Nat) : Nat :=
  if month = 2 then if isLeapYear year then 29 else 28
  else if [4, 6, 9, 11].contains month then 30
  else 31

/-- Whether there is such a day in a year that is covered. -/
def isValid (date : Date) : Bool :=
  firstYear ≤ date.year && date.year ≤ lastYear && 1 ≤ date.month && date.month ≤ 12
    && 1 ≤ date.day && date.day ≤ daysInMonth date.year date.month

def previous (date : Date) : Date :=
  if 1 < date.day then { date with day := date.day - 1 }
  else if 1 < date.month then
    ⟨date.year, date.month - 1, daysInMonth date.year (date.month - 1)⟩
  else ⟨date.year - 1, 12, 31⟩

def next (date : Date) : Date :=
  if date.day < daysInMonth date.year date.month then { date with day := date.day + 1 }
  else if date.month < 12 then ⟨date.year, date.month + 1, 1⟩
  else ⟨date.year + 1, 1, 1⟩

end Date

end Rollup
