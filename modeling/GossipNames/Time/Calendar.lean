/-! Days of the proleptic Gregorian calendar, counted from the first day of year 0. -/

namespace GossipNames.Calendar

structure Date where
  year : Int
  month : Nat
  day : Nat
  deriving DecidableEq, Repr

def isLeapYear (year : Int) : Bool :=
  year % 4 = 0 ∧ (year % 100 ≠ 0 ∨ year % 400 = 0)

def monthLengths (year : Int) : List Nat :=
  [31, if isLeapYear year then 29 else 28, 31, 30, 31, 30, 31, 31, 30, 31, 30, 31]

/-- Days from the first day of year 0 to the first day of a year: a day more for every leap year
in between. -/
def daysBeforeYear (year : Int) : Int :=
  365 * year + (year + 3) / 4 - (year + 99) / 100 + (year + 399) / 400

/-- The date exists in the calendar. -/
def Date.isValid (date : Date) : Bool :=
  1 ≤ date.month ∧ 1 ≤ date.day ∧ date.day ≤ (monthLengths date.year).getD (date.month - 1) 0

/-- Days from the first day of a year to the first day of a month. -/
def daysBeforeMonth (year : Int) (month : Nat) : Nat :=
  ((monthLengths year).take (month - 1)).foldl (· + ·) 0

def Date.toDays (date : Date) : Int :=
  daysBeforeYear date.year + daysBeforeMonth date.year date.month + (date.day - 1)

/-- The year that a day lies in: an average year's estimate is off by at most one. -/
def yearOfDay (days : Int) : Int :=
  let estimate := 400 * days / 146097
  if days < daysBeforeYear estimate then estimate - 1
  else if daysBeforeYear (estimate + 1) ≤ days then estimate + 1
  else estimate

/-- Walks through the months from the given one. -/
def monthAndDay (month : Nat) : List Nat → Nat → Nat × Nat
  | [], rest => (month, rest + 1)
  | length :: lengths, rest =>
    if rest < length then (month, rest + 1) else monthAndDay (month + 1) lengths (rest - length)

def Date.ofDays (days : Int) : Date :=
  let year := yearOfDay days
  let (month, day) := monthAndDay 1 (monthLengths year) (days - daysBeforeYear year).toNat
  { year, month, day }

end GossipNames.Calendar
