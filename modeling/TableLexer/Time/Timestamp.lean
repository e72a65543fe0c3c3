import TableLexer.Time.Date
import TableLexer.Text.Blank
import TableLexer.Text.Digits

/-!
# Timestamps

A moment in UTC to the nanosecond.  A leap second is the last second of a minute with a
billion nanoseconds or more.  Two written forms are used: one with exactly three digits of
fraction, in reports, and one with as few groups of three digits as are exact, in saved
histories.  Reading takes the second form and more: blanks between the parts, any offset
from UTC, any length of the fraction.
-/

namespace TableLexer

/--
A moment in UTC.  A time can also be made with a billion nanoseconds or more on a second
that is not the last one of its minute.  It is written with the number of the next second,
so it is not read back as it was; `nano_lt` leaves such times out.
-/
structure Timestamp where
  /-- Days from 1970-01-01. -/
  day : Int
  /-- Seconds of the day, leap seconds not counted. -/
  second : Nat
  /-- Nanoseconds of the second, from a billion on in a leap second. -/
  nano : Nat
  day_in_range : Date.firstDay ≤ day ∧ day ≤ Date.lastDay
  second_lt : second < 86400
  nano_lt : nano < 1000000000 ∨ (second % 60 = 59 ∧ nano < 2000000000)
deriving Repr

namespace Timestamp

instance : DecidableEq Timestamp := fun s t =>
  if h : s.day = t.day ∧ s.second = t.second ∧ s.nano = t.nano then
    .isTrue (by
      cases s
      cases t
      simp only at h
      obtain ⟨rfl, rfl, rfl⟩ := h
      rfl)
  else
    .isFalse (by
      rintro rfl
      exact h ⟨rfl, rfl, rfl⟩)

/-- The moment with the given parts, if they are in range. -/
def mk? (day : Int) (second nano : Nat) : Option Timestamp :=
  if hd : Date.firstDay ≤ day ∧ day ≤ Date.lastDay then
    if hs : second < 86400 then
      if hn : nano < 1000000000 ∨ (second % 60 = 59 ∧ nano < 2000000000) then
        some ⟨day, second, nano, hd, hs, hn⟩
      else none
    else none
  else none

/-- 1970-01-01 at midnight. -/
def epoch : Timestamp :=
  ⟨0, 0, 0, by decide, by decide, by decide⟩

instance : Inhabited Timestamp := ⟨epoch⟩

/-- The moment that is a number of milliseconds after the epoch. -/
def ofUnixMillis? (millis : Int) : Option Timestamp :=
  let seconds := millis / 1000
  mk? (seconds / 86400) (seconds % 86400).toNat ((millis % 1000).toNat * 1000000)

/-- The number of milliseconds from the epoch to the moment. -/
def unixMillis (t : Timestamp) : Int :=
  (t.day * 86400 + t.second) * 1000 + (t.nano / 1000000 : Nat)

/-- The second of the minute, 60 in a leap second. -/
def secondOfMinute (t : Timestamp) : Nat :=
  t.second % 60 + t.nano / 1000000000

/-- The nanoseconds of the second, leap seconds counted. -/
def fraction (t : Timestamp) : Nat :=
  t.nano % 1000000000

/-- A year: four digits, and a sign with at least four digits outside 0 to 9999. -/
def writeYear (year : Int) : List Char :=
  if 0 ≤ year ∧ year ≤ 9999 then
    Text.paddedDecimal 4 year.toNat
  else
    (if year < 0 then '-' else '+') :: Text.paddedDecimal 4 year.natAbs

/-- The date and the time of the day up to the second. -/
def writeSeconds (t : Timestamp) : List Char :=
  let d := Date.ofDayNumber t.day
  writeYear d.year ++ '-' :: Text.paddedDecimal 2 d.month ++
    '-' :: Text.paddedDecimal 2 d.day ++ 'T' :: Text.paddedDecimal 2 (t.second / 3600) ++
    ':' :: Text.paddedDecimal 2 (t.second / 60 % 60) ++
    ':' :: Text.paddedDecimal 2 t.secondOfMinute

/-- The moment with three digits of fraction. -/
def formatMillis (t : Timestamp) : String :=
  String.ofList (t.writeSeconds ++
    '.' :: Text.paddedDecimal 3 (t.fraction / 1000000) ++ ['Z'])

/-- The fraction of the second in as few groups of three digits as are exact. -/
def writeFraction (t : Timestamp) : List Char :=
  if t.fraction = 0 then []
  else if t.fraction % 1000000 = 0 then '.' :: Text.paddedDecimal 3 (t.fraction / 1000000)
  else if t.fraction % 1000 = 0 then '.' :: Text.paddedDecimal 6 (t.fraction / 1000)
  else '.' :: Text.paddedDecimal 9 t.fraction

/-- The moment with a fraction that is as short as it can be. -/
def formatExact (t : Timestamp) : String :=
  String.ofList (t.writeSeconds ++ t.writeFraction ++ ['Z'])

end Timestamp
end TableLexer
