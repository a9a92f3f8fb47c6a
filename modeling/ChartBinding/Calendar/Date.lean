/-!
# Days and times of day

Dates of the Gregorian calendar, extended without end in both directions and with a year zero, and
times of day in which a leap second may be written as second 60.
-/

namespace ChartBinding.Calendar

structure Date where
  year : Int
  month : Nat
  day : Nat
deriving DecidableEq

/-- A time of day, as written; fractions of a second are not kept. -/
structure Time where
  hour : Nat
  minute : Nat
  second : Nat
deriving DecidableEq

namespace Date

def isLeap (year : Int) : Bool := year % 4 = 0 ∧ (year % 100 ≠ 0 ∨ year % 400 = 0)

def daysInMonth (year : Int) (month : Nat) : Nat :=
  if month = 2 then (if isLeap year then 29 else 28)
  else if month = 4 ∨ month = 6 ∨ month = 9 ∨ month = 11 then 30
  else 31

def firstYear : Int := -262143

def lastYear : Int := 262142

def isValid (d : Date) : Bool :=
  firstYear ≤ d.year ∧ d.year ≤ lastYear ∧ 1 ≤ d.month ∧ d.month ≤ 12
    ∧ 1 ≤ d.day ∧ d.day ≤ daysInMonth d.year d.month

/-- The number of days since the first of March of the year zero. Years are counted from March, so
that the leap day is the last day of its year. -/
def dayNumber (d : Date) : Int :=
  let year := if d.month ≤ 2 then d.year - 1 else d.year
  let month := (d.month + 9) % 12
  365 * year + year / 4 - year / 100 + year / 400 + (153 * month + 2) / 5 + d.day - 1

/-- The day of the week, counted from Monday. -/
def weekday (d : Date) : Nat := ((d.dayNumber + 2) % 7).toNat

def last : Date := ⟨lastYear, 12, 31⟩

def first : Date := ⟨firstYear, 1, 1⟩

end Date

namespace Time

def midnight : Time := ⟨0, 0, 0⟩

def isValid (t : Time) : Bool := t.hour ≤ 23 ∧ t.minute ≤ 59 ∧ t.second ≤ 60

/-- Whole minutes since midnight. -/
def minutes (t : Time) : Int := 60 * t.hour + t.minute

end Time

end ChartBinding.Calendar
