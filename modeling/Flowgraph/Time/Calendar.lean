/-! Dates of the proleptic Gregorian calendar as day numbers. Years are counted from March, so that
a leap day is the last of its year; 400 years always have 146097 days. -/

namespace Flowgraph.Calendar

structure Date where
  year : Int
  month : Nat
  day : Nat
  deriving DecidableEq, Repr

/-- From 0000-03-01 to 1970-01-01. -/
def epochOffset : Int := 719468

/-- Days before a March-based month of a year. -/
def daysBeforeMonth (month : Nat) : Nat := (153 * month + 2) / 5

/-- Days before a March-based year of a 400-year cycle. -/
def daysBeforeYear (year : Nat) : Nat := 365 * year + year / 4 - year / 100

/-- Days since 1970-01-01. -/
def Date.toDays (d : Date) : Int :=
  let year := if d.month ≤ 2 then d.year - 1 else d.year
  let month := if d.month ≤ 2 then d.month + 9 else d.month - 3
  (year / 400) * 146097 + daysBeforeYear (year % 400).toNat + daysBeforeMonth month + d.day - 1 - epochOffset

def Date.ofDays (days : Int) : Date :=
  let shifted := days + epochOffset
  let dayOfCycle := (shifted % 146097).toNat
  let yearOfCycle := (dayOfCycle - dayOfCycle / 1460 + dayOfCycle / 36524 - dayOfCycle / 146096) / 365
  let dayOfYear := dayOfCycle - daysBeforeYear yearOfCycle
  let month := (5 * dayOfYear + 2) / 153
  let year := (shifted / 146097) * 400 + yearOfCycle
  ⟨if month < 10 then year else year + 1, if month < 10 then month + 3 else month - 9,
    dayOfYear - daysBeforeMonth month + 1⟩

def isLeap (year : Int) : Bool := year % 4 = 0 && (year % 100 ≠ 0 || year % 400 = 0)

def monthLength (year : Int) (month : Nat) : Nat :=
  if month = 2 then (if isLeap year then 29 else 28)
  else if month = 4 || month = 6 || month = 9 || month = 11 then 30 else 31

def Date.isValid (d : Date) : Bool :=
  1 ≤ d.month && d.month ≤ 12 && 1 ≤ d.day && d.day ≤ monthLength d.year d.month

end Flowgraph.Calendar
