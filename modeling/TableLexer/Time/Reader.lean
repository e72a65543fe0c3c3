import TableLexer.Time.Timestamp

/-!
# Reading timestamps

A date, a separator, a time and an offset from UTC.  Numbers may have fewer digits than
they are written with, blanks may stand around the marks between them, a year may carry a
sign and then any number of digits, and the second of the minute may be 60.  The offset is
needed; the result is in UTC.
-/

namespace TableLexer
namespace Timestamp

/-- The text without the blanks at its head. -/
def skipBlank (cs : List Char) : List Char :=
  cs.dropWhile Text.isBlank

/-- Reads a number of at most `most` digits behind blanks. -/
def readField (most : Nat) (cs : List Char) : Option (Nat × List Char) :=
  Text.readDecimal most (skipBlank cs)

/-- Reads a mark behind blanks. -/
def readMark (mark : Char) (cs : List Char) : Option (List Char) :=
  match skipBlank cs with
  | c :: rest => if c = mark then some rest else none
  | [] => none

/-- Reads a year: at most four digits, or a sign and any number of digits. -/
def readYear (cs : List Char) : Option (Int × List Char) :=
  match skipBlank cs with
  | '-' :: rest =>
    (Text.readDecimal rest.length rest).map fun (n, rest) => (-(n : Int), rest)
  | '+' :: rest =>
    (Text.readDecimal rest.length rest).map fun (n, rest) => ((n : Int), rest)
  | cs => (Text.readDecimal 4 cs).map fun (n, rest) => ((n : Int), rest)

/-- Reads a date that the calendar has. -/
def readDate (cs : List Char) : Option (Date × List Char) := do
  let (year, cs) ← readYear cs
  let cs ← readMark '-' cs
  let (month, cs) ← readField 2 cs
  let cs ← readMark '-' cs
  let (day, cs) ← readField 2 cs
  let date : Date := ⟨year, month, day⟩
  if date.isValid then some (date, cs) else none

/-- Reads a fraction in nanoseconds; digits beyond the ninth are ignored. -/
def readNanos : List Char → Option (Nat × List Char)
  | '.' :: rest =>
    match Text.takeDigits 9 rest with
    | ([], _) => none
    | (digits, rest) =>
      some (Text.decimalValue digits * Nat.pow 10 (9 - digits.length),
        rest.dropWhile Char.isDigit)
  | cs => some (0, cs)

/-- Reads a time of the day: the second of the day and the nanosecond. -/
def readTime (cs : List Char) : Option ((Nat × Nat) × List Char) := do
  let (hour, cs) ← readField 2 cs
  let cs ← readMark ':' cs
  let (minute, cs) ← readField 2 cs
  let cs ← readMark ':' cs
  let (second, cs) ← readField 2 cs
  let (nano, cs) ← readNanos cs
  if hour < 24 ∧ minute < 60 ∧ second ≤ 60 then
    let whole := (hour * 60 + minute) * 60
    if second = 60 then
      some ((whole + 59, nano + 1000000000), cs)
    else
      some ((whole + second, nano), cs)
  else
    none

/-- Reads two digits. -/
def readTwoDigits : List Char → Option (Nat × List Char)
  | a :: b :: rest =>
    if a.isDigit && b.isDigit then some (Text.decimalValue [a, b], rest) else none
  | _ => none

/-- Reads the hours and minutes of an offset, in seconds; colons and blanks may stand
between. -/
def readOffsetAmount (cs : List Char) : Option (Nat × List Char) := do
  let (hours, cs) ← readTwoDigits cs
  let (minutes, cs) ← readTwoDigits (cs.dropWhile fun c => c == ':' || Text.isBlank c)
  let seconds := hours * 3600 + minutes * 60
  if minutes < 60 ∧ seconds < 86400 then some (seconds, cs) else none

/-- Reads an offset from UTC, in seconds: `Z`, `UTC`, or a sign with hours and minutes. -/
def readOffset : List Char → Option (Int × List Char)
  | 'Z' :: rest | 'z' :: rest => some (0, rest)
  | '+' :: rest => (readOffsetAmount rest).map fun (s, rest) => ((s : Int), rest)
  | '-' :: rest | '−' :: rest =>
    (readOffsetAmount rest).map fun (s, rest) => (-(s : Int), rest)
  | u :: t :: c :: rest =>
    if u.toUpper = 'U' ∧ t.toUpper = 'T' ∧ c.toUpper = 'C' then some (0, rest) else none
  | _ => none

/-- The moment in UTC at which a clock that is `offset` seconds ahead shows a date and a
time. -/
def ofLocal? (date : Date) (second nano : Nat) (offset : Int) : Option Timestamp :=
  let day := date.toDayNumber
  if Date.firstDay ≤ day ∧ day ≤ Date.lastDay then
    let seconds := (second : Int) - offset
    mk? (day + seconds / 86400) (seconds % 86400).toNat nano
  else
    none

/-- Reads a whole text as a moment. -/
def parse? (s : String) : Option Timestamp := do
  let (date, cs) ← readDate s.toList
  let cs ← match cs with
    | c :: rest => if c = 'T' ∨ c = 't' ∨ c = ' ' then some rest else none
    | [] => none
  let ((second, nano), cs) ← readTime cs
  let (offset, cs) ← readOffset (skipBlank cs)
  if (skipBlank cs).isEmpty then ofLocal? date second nano offset else none

end Timestamp
end TableLexer
