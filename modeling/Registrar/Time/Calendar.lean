/-!
The proleptic Gregorian calendar: dates and their day numbers, counted from 1970-01-01.
-/

namespace Registrar.Time

structure Date where
  year : Int
  month : Nat
  day : Nat
deriving DecidableEq, Repr

def isLeapYear (year : Int) : Bool :=
  year % 4 == 0 && (year % 100 != 0 || year % 400 == 0)

def daysInMonth (year : Int) (month : Nat) : Nat :=
  if month == 2 then (if isLeapYear year then 29 else 28)
  else if month == 4 || month == 6 || month == 9 || month == 11 then 30
  else 31

def Date.isValid (date : Date) : Bool :=
  1 ≤ date.month && date.month ≤ 12 && 1 ≤ date.day && date.day ≤ daysInMonth date.year date.month

/-- The days between 0000-03-01 and 1970-01-01. -/
def epochShift : Int := 719468

/-- The number of days from 1970-01-01. Years are taken to begin in March, so that the leap day is their last. -/
def Date.dayNumber (date : Date) : Int :=
  let year := if date.month ≤ 2 then date.year - 1 else date.year
  let monthOfYear := (date.month + 9) % 12
  let dayOfYear : Nat := (153 * monthOfYear + 2) / 5 + date.day - 1
  365 * year + year / 4 - year / 100 + year / 400 + dayOfYear - epochShift

/-- The date with the given day number. The days are cut into 400-year eras of 146097 days each. -/
def Date.ofDayNumber (number : Int) : Date :=
  let shifted := number + epochShift
  let era := shifted / 146097
  let dayOfEra := (shifted % 146097).toNat
  let yearOfEra := (dayOfEra - dayOfEra / 1460 + dayOfEra / 36524 - dayOfEra / 146096) / 365
  let dayOfYear := dayOfEra - (365 * yearOfEra + yearOfEra / 4 - yearOfEra / 100)
  let monthOfYear := (5 * dayOfYear + 2) / 153
  let month := if monthOfYear < 10 then monthOfYear + 3 else monthOfYear - 9
  { year := (yearOfEra : Int) + era * 400 + (if month ≤ 2 then 1 else 0)
    month := month
    day := dayOfYear - (153 * monthOfYear + 2) / 5 + 1 }

example : (⟨1970, 1, 1⟩ : Date).dayNumber = 0 := by decide

example : Date.ofDayNumber 19782 = ⟨2024, 2, 29⟩ := by decide

example : Date.ofDayNumber (-719529) = ⟨-1, 12, 31⟩ := by decide

end Registrar.Time
