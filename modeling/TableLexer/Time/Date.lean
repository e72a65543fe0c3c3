/-!
# Dates

The Gregorian calendar extended to all years, and its days counted from 1970-01-01.  The
count works on years that begin in March, so that the leap day is the last day of a year,
and on eras of 400 years, which all have 146097 days.
-/

namespace TableLexer

/-- A date of the Gregorian calendar. -/
structure Date where
  year : Int
  month : Nat
  day : Nat
deriving DecidableEq, Repr

namespace Date

/-- The year has a leap day. -/
def isLeapYear (year : Int) : Bool :=
  year % 4 == 0 && (year % 100 != 0 || year % 400 == 0)

/-- The number of days in a month. -/
def daysInMonth (year : Int) (month : Nat) : Nat :=
  if month = 2 then (if isLeapYear year then 29 else 28)
  else if month = 4 ∨ month = 6 ∨ month = 9 ∨ month = 11 then 30
  else 31

/-- The year has such a month and the month such a day. -/
def isValid (d : Date) : Bool :=
  1 ≤ d.month && d.month ≤ 12 && 1 ≤ d.day && d.day ≤ daysInMonth d.year d.month

/-- The number of days from 1970-01-01 to the date. -/
def toDayNumber (d : Date) : Int :=
  let year := if d.month ≤ 2 then d.year - 1 else d.year
  let era := year / 400
  let yearOfEra := year % 400
  let month : Int := if d.month ≤ 2 then (d.month : Int) + 9 else (d.month : Int) - 3
  let dayOfYear := (153 * month + 2) / 5 + (d.day : Int) - 1
  let dayOfEra := yearOfEra * 365 + yearOfEra / 4 - yearOfEra / 100 + dayOfYear
  era * 146097 + dayOfEra - 719468

/-- The date that is a number of days after 1970-01-01. -/
def ofDayNumber (n : Int) : Date :=
  let shifted := n + 719468
  let era := shifted / 146097
  let dayOfEra := shifted % 146097
  let yearOfEra :=
    (dayOfEra - dayOfEra / 1460 + dayOfEra / 36524 - dayOfEra / 146096) / 365
  let dayOfYear := dayOfEra - (365 * yearOfEra + yearOfEra / 4 - yearOfEra / 100)
  let month := (5 * dayOfYear + 2) / 153
  let day := dayOfYear - (153 * month + 2) / 5 + 1
  let year := yearOfEra + era * 400
  if month < 10 then
    ⟨year, (month + 3).toNat, day.toNat⟩
  else
    ⟨year + 1, (month - 9).toNat, day.toNat⟩

/-- The first and the last day that a timestamp can have. -/
def firstDay : Int := toDayNumber ⟨-262143, 1, 1⟩

/-- The last day that a timestamp can have. -/
def lastDay : Int := toDayNumber ⟨262142, 12, 31⟩

end Date
end TableLexer
