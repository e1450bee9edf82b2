/-!
# `Gatekeeper.Time.Calendar`: dates and the days they name

Dates of the proleptic Gregorian calendar and the number of the day that each names,
counted from 1970-01-01. Years are counted from March on, so that the leap day is the last
day of its year: four centuries of 146097 days fall into centuries of 36524 days, these
into groups of four years of 1461 days, and these into years of 365 days, where the last
part of each may be a day longer.
-/

set_option autoImplicit false

namespace Gatekeeper.Time

/-- A day of the calendar, by year, month and day of the month. -/
structure Date where
  year : Int
  month : Nat
  day : Nat
  deriving DecidableEq, Repr

namespace Date

/-- A year has a leap day if four divides it, unless a hundred does and four hundred does not. -/
def isLeapYear (year : Int) : Bool :=
  year % 4 == 0 && (year % 100 != 0 || year % 400 == 0)

/-- The number of days of a month. -/
def daysInMonth (year : Int) (month : Nat) : Nat :=
  if month = 2 then (if isLeapYear year then 29 else 28)
  else if month = 4 ∨ month = 6 ∨ month = 9 ∨ month = 11 then 30
  else 31

/-- Whether the calendar has this date. -/
def isValid (d : Date) : Bool :=
  1 ≤ d.month && d.month ≤ 12 && 1 ≤ d.day && d.day ≤ daysInMonth d.year d.month

/-- The days from 1 March of year 0 to 1 January 1970. -/
def epochOffset : Int := 719468

/-- The number of the day, counted from 1970-01-01. -/
def toDayNumber (d : Date) : Int :=
  let year := if d.month ≤ 2 then d.year - 1 else d.year
  let month := (d.month + 9) % 12
  365 * year + year / 4 - year / 100 + year / 400 + ((153 * month + 2) / 5 : Nat) + d.day - 1
    - epochOffset

/-- The date of the day with this number. -/
def ofDayNumber (n : Int) : Date :=
  let shifted := n + epochOffset
  let cycle := shifted / 146097
  let inCycle := (shifted % 146097).toNat
  let century := min (inCycle / 36524) 3
  let inCentury := inCycle - century * 36524
  let group := inCentury / 1461
  let inGroup := inCentury % 1461
  let part := min (inGroup / 365) 3
  let inYear := inGroup - part * 365
  let month := (5 * inYear + 2) / 153
  let day := inYear - (153 * month + 2) / 5 + 1
  let year := 400 * cycle + (100 * century + 4 * group + part : Nat)
  if month < 10 then ⟨year, month + 3, day⟩ else ⟨year + 1, month - 9, day⟩

example : toDayNumber ⟨1970, 1, 1⟩ = 0 := by decide

example : ofDayNumber 0 = ⟨1970, 1, 1⟩ := by decide

example : ofDayNumber 20512 = ⟨2026, 2, 28⟩ ∧ ofDayNumber 20513 = ⟨2026, 3, 1⟩ := by decide

end Date

end Gatekeeper.Time
