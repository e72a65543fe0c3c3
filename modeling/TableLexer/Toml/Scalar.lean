import TableLexer.Toml.Basic
import TableLexer.Text.Digits
import TableLexer.Time.Date

/-!
# TOML scalars

The values that stand for themselves: strings in their four forms, numbers, truth values,
and dates and times.  Underscores may stand between digits, and a whole number has to fit
into 64 bits.
-/

namespace TableLexer
namespace Toml

/-- The character may stand in a comment or a literal string. -/
def isPlain (c : Char) : Bool :=
  c == '\t' || (32 ≤ c.toNat && c.toNat ≠ 127)

/-- The character may stand between the parts of a line. -/
def isGap (c : Char) : Bool :=
  c == ' ' || c == '\t'

/-- The text without the gap at its head. -/
def skipGap (cs : List Char) : List Char :=
  cs.dropWhile isGap

/-- The text after a line break, if it begins with one. -/
def dropLineBreak? : List Char → Option (List Char)
  | '\n' :: rest => some rest
  | '\r' :: '\n' :: rest => some rest
  | _ => none

/-- The value of a digit in a base up to 16, in either case. -/
def digitIn? (base : Nat) (c : Char) : Option Nat :=
  let value :=
    if c.isDigit then c.toNat - '0'.toNat
    else if 'a' ≤ c && c ≤ 'f' then c.toNat - 'a'.toNat + 10
    else if 'A' ≤ c && c ≤ 'F' then c.toNat - 'A'.toNat + 10
    else 16
  if value < base then some value else none

/-- Reads exactly `n` hexadecimal digits on top of a number. -/
def readHex : Nat → Nat → List Char → Option (Nat × List Char)
  | 0, value, cs => some (value, cs)
  | n + 1, value, c :: cs =>
    match digitIn? 16 c with
    | some d => readHex n (value * 16 + d) cs
    | none => none
  | _ + 1, _, [] => none

/-- The character with the given code point. -/
def charOf? (n : Nat) : Option Char :=
  if n < 0xD800 ∨ (0xDFFF < n ∧ n < 0x110000) then some (Char.ofNat n) else none

/-- Reads an escape whose backslash has been taken. -/
def readEscape : List Char → Option (Char × List Char)
  | 'b' :: rest => some ('\x08', rest)
  | 't' :: rest => some ('\t', rest)
  | 'n' :: rest => some ('\n', rest)
  | 'f' :: rest => some ('\x0c', rest)
  | 'r' :: rest => some ('\r', rest)
  | '"' :: rest => some ('"', rest)
  | '\\' :: rest => some ('\\', rest)
  | 'u' :: rest => do
    let (n, rest) ← readHex 4 0 rest
    return (← charOf? n, rest)
  | 'U' :: rest => do
    let (n, rest) ← readHex 8 0 rest
    return (← charOf? n, rest)
  | _ => none

/-- Reads a basic string up to its closing quote, in front of what has been read. -/
def readBasic : Nat → List Char → List Char → Option (String × List Char)
  | 0, _, _ => none
  | n + 1, found, cs =>
    match cs with
    | [] => none
    | '"' :: rest => some (String.ofList found.reverse, rest)
    | '\\' :: rest =>
      match readEscape rest with
      | some (c, rest) => readBasic n (c :: found) rest
      | none => none
    | c :: rest => if isPlain c then readBasic n (c :: found) rest else none

/-- Reads a literal string up to its closing quote, in front of what has been read. -/
def readLiteral (found : List Char) : List Char → Option (String × List Char)
  | [] => none
  | '\'' :: rest => some (String.ofList found.reverse, rest)
  | c :: rest => if isPlain c then readLiteral (c :: found) rest else none

/-- The text after the blanks and line breaks at its head, and whether there was a line
break. -/
def skipFolded (broken : Bool) : List Char → Bool × List Char
  | '\n' :: rest => skipFolded true rest
  | '\r' :: '\n' :: rest => skipFolded true rest
  | c :: rest => if isGap c then skipFolded broken rest else (broken, c :: rest)
  | [] => (broken, [])

/--
The end of a string over several lines: of three to five quotes the last three close it,
and the others belong to it.  The answer is the number of quotes that belong to it, and the
rest.
-/
def closing? (quote : Char) (cs : List Char) : Option (Nat × List Char) :=
  let quotes := (cs.takeWhile (· == quote)).length
  if 3 ≤ quotes then
    let kept := min (quotes - 3) 2
    some (kept, cs.drop (kept + 3))
  else
    none

/-- Reads a basic string over several lines, in front of what has been read. -/
def readBasicLines : Nat → List Char → List Char → Option (String × List Char)
  | 0, _, _ => none
  | n + 1, found, cs =>
    match closing? '"' cs with
    | some (kept, rest) =>
      some (String.ofList (found.reverse ++ List.replicate kept '"'), rest)
    | none =>
      match cs with
      | [] => none
      | '\\' :: rest =>
        match readEscape rest with
        | some (c, rest) => readBasicLines n (c :: found) rest
        | none =>
          match skipFolded false rest with
          | (true, rest) => readBasicLines n found rest
          | (false, _) => none
      | c :: rest =>
        match dropLineBreak? cs with
        | some rest => readBasicLines n ('\n' :: found) rest
        | none => if isPlain c then readBasicLines n (c :: found) rest else none

/-- Reads a literal string over several lines, in front of what has been read. -/
def readLiteralLines : Nat → List Char → List Char → Option (String × List Char)
  | 0, _, _ => none
  | n + 1, found, cs =>
    match closing? '\'' cs with
    | some (kept, rest) =>
      some (String.ofList (found.reverse ++ List.replicate kept '\''), rest)
    | none =>
      match cs with
      | [] => none
      | c :: rest =>
        match dropLineBreak? cs with
        | some rest => readLiteralLines n ('\n' :: found) rest
        | none => if isPlain c then readLiteralLines n (c :: found) rest else none

/-- The text without the line break at its head, if there is one. -/
def skipFirstBreak (cs : List Char) : List Char :=
  (dropLineBreak? cs).getD cs

/-- Reads a string on one line. -/
def readLineString : List Char → Option (String × List Char)
  | '"' :: rest => readBasic (rest.length + 1) [] rest
  | '\'' :: rest => readLiteral [] rest
  | _ => none

/-- Reads a string in any of its forms. -/
def readString (cs : List Char) : Option (String × List Char) :=
  match cs with
  | '"' :: '"' :: '"' :: rest => readBasicLines (rest.length + 1) [] (skipFirstBreak rest)
  | '\'' :: '\'' :: '\'' :: rest =>
    readLiteralLines (rest.length + 1) [] (skipFirstBreak rest)
  | cs => readLineString cs

/-- Reads digits of a base after the first one; single underscores may stand between
them. -/
def readMoreDigits (base : Nat) (found : List Nat) :
    List Char → Option (List Nat × List Char)
  | '_' :: c :: rest =>
    match digitIn? base c with
    | some d => readMoreDigits base (d :: found) rest
    | none => none
  | '_' :: [] => none
  | c :: rest =>
    match digitIn? base c with
    | some d => readMoreDigits base (d :: found) rest
    | none => some (found.reverse, c :: rest)
  | [] => some (found.reverse, [])

/-- Reads digits of a base, at least one. -/
def readDigits (base : Nat) : List Char → Option (List Nat × List Char)
  | c :: rest =>
    match digitIn? base c with
    | some d => readMoreDigits base [d] rest
    | none => none
  | [] => none

/-- Reads the digits of a whole number in decimal: a zero stands alone. -/
def readWhole : List Char → Option (List Nat × List Char)
  | '0' :: rest => some ([0], rest)
  | cs => readDigits 10 cs

/-- The number that digits of a base write. -/
def digitsValue (base : Nat) (digits : List Nat) : Nat :=
  digits.foldl (fun n d => n * base + d) 0

/-- The whole number fits into 64 bits with a sign. -/
def fitsWord (n : Int) : Bool :=
  -9223372036854775808 ≤ n && n ≤ 9223372036854775807

/-- A whole number as a value, if it fits. -/
def integer? (n : Int) : Option Toml :=
  if fitsWord n then some (integer n) else none

/-- Splits a sign off the head of the text; the first part tells whether it is a minus. -/
def readSign : List Char → Bool × List Char
  | '-' :: rest => (true, rest)
  | '+' :: rest => (false, rest)
  | cs => (false, cs)

/-- The least number that is too large for a double: the middle above the largest one. -/
def doubleLimit : Nat := Nat.pow 2 1024 - Nat.pow 2 970

/--
The number `digits · 10 ^ exponent` is too large for a double.  Exponents far outside the
range are settled without computing the power.
-/
def overflows (digits : List Nat) (exponent : Int) : Bool :=
  let digits := digits.dropWhile (· == 0)
  let n := digitsValue 10 digits
  if digits.isEmpty then false
  else if (digits.length : Int) + exponent > 400 then true
  else if (digits.length : Int) + exponent < 300 then false
  else if 0 ≤ exponent then doubleLimit ≤ n * Nat.pow 10 exponent.toNat
  else doubleLimit * Nat.pow 10 (-exponent).toNat ≤ n

/-- Reads the exponent of a number, whose letter has been taken. -/
def readExponent (cs : List Char) : Option (Int × List Char) :=
  let (negative, cs) := readSign cs
  (readDigits 10 cs).map fun (digits, rest) =>
    let n : Int := digitsValue 10 digits
    (if negative then -n else n, rest)

/-- A number with a fraction or an exponent as a value; a positive one may not be too
large. -/
def float? (negative : Bool) (digits : List Nat) (exponent : Int) : Option Toml :=
  if !negative && overflows digits exponent then none else some float

/-- Reads a fraction with the exponent behind it; the digits of the whole part are
given. -/
def readFraction (negative : Bool) (whole : List Nat) (cs : List Char) :
    Option (Toml × List Char) := do
  let (fraction, cs) ← readDigits 10 cs
  let (exponent, cs) ← match cs with
    | 'e' :: rest => readExponent rest
    | 'E' :: rest => readExponent rest
    | cs => some (0, cs)
  return (← float? negative (whole ++ fraction) (exponent - fraction.length), cs)

/-- Reads a number in decimal, or one of the words `inf` and `nan`, behind an optional
sign. -/
def readDecimalNumber (cs : List Char) : Option (Toml × List Char) :=
  let (negative, cs) := readSign cs
  match cs with
  | 'i' :: 'n' :: 'f' :: rest => some (float, rest)
  | 'n' :: 'a' :: 'n' :: rest => some (float, rest)
  | cs =>
    match readWhole cs with
    | none => none
    | some (digits, '.' :: rest) => readFraction negative digits rest
    | some (digits, rest) =>
      match rest with
      | 'e' :: more | 'E' :: more => do
        let (exponent, more) ← readExponent more
        return (← float? negative digits exponent, more)
      | rest =>
        let n : Int := digitsValue 10 digits
        (integer? (if negative then -n else n)).map fun v => (v, rest)

/-- Reads a whole number of another base, whose mark has been taken. -/
def readBased (base : Nat) (cs : List Char) : Option (Toml × List Char) := do
  let (digits, rest) ← readDigits base cs
  return (← integer? (digitsValue base digits), rest)

/-- Reads a number. -/
def readNumber : List Char → Option (Toml × List Char)
  | '0' :: 'x' :: rest => readBased 16 rest
  | '0' :: 'o' :: rest => readBased 8 rest
  | '0' :: 'b' :: rest => readBased 2 rest
  | cs => readDecimalNumber cs

/-- Reads a number of exactly `n` decimal digits. -/
def readFixed (n : Nat) (cs : List Char) : Option (Nat × List Char) :=
  match Text.takeDigits n cs with
  | (digits, rest) =>
    if digits.length = n then some (Text.decimalValue digits, rest) else none

/-- Reads a number of two digits that is within bounds. -/
def readTwo (least most : Nat) (cs : List Char) : Option (Nat × List Char) :=
  match readFixed 2 cs with
  | some (n, rest) => if least ≤ n ∧ n ≤ most then some (n, rest) else none
  | none => none

/-- Reads a mark. -/
def readMark (mark : Char) : List Char → Option (List Char)
  | c :: rest => if c = mark then some rest else none
  | [] => none

/-- Reads a date that the calendar has. -/
def readDate (cs : List Char) : Option (List Char) := do
  let (year, cs) ← readFixed 4 cs
  let cs ← readMark '-' cs
  let (month, cs) ← readTwo 1 12 cs
  let cs ← readMark '-' cs
  let (day, cs) ← readTwo 1 31 cs
  let date : Date := ⟨year, month, day⟩
  if date.isValid then some cs else none

/-- Reads a time of the day. -/
def readTime (cs : List Char) : Option (List Char) := do
  let (_, cs) ← readTwo 0 23 cs
  let cs ← readMark ':' cs
  let (_, cs) ← readTwo 0 59 cs
  let cs ← readMark ':' cs
  let (_, cs) ← readTwo 0 60 cs
  match cs with
  | '.' :: c :: rest => if c.isDigit then some (rest.dropWhile Char.isDigit) else none
  | '.' :: [] => none
  | cs => some cs

/-- Reads an offset from UTC, if there is one. -/
def readOffset : List Char → Option (List Char)
  | 'Z' :: rest | 'z' :: rest => some rest
  | '+' :: rest | '-' :: rest => do
    let (_, cs) ← readTwo 0 23 rest
    let cs ← readMark ':' cs
    let (_, cs) ← readTwo 0 59 cs
    return cs
  | cs => some cs

/-- The text begins with two digits and a colon. -/
def startsTime : List Char → Bool
  | a :: b :: ':' :: _ => a.isDigit && b.isDigit
  | _ => false

/-- The text begins with four digits and a dash. -/
def startsDate : List Char → Bool
  | a :: b :: c :: d :: '-' :: _ => a.isDigit && b.isDigit && c.isDigit && d.isDigit
  | _ => false

/-- Reads a date, a time, or both. -/
def readDatetime (cs : List Char) : Option (List Char) :=
  if startsDate cs then
    match readDate cs with
    | none => none
    | some (d :: rest) =>
      if (d == 'T' || d == 't' || d == ' ') && startsTime rest then
        (readTime rest).bind readOffset
      else
        some (d :: rest)
    | some [] => some []
  else
    readTime cs

/-- Reads a value that begins with a sign, a digit, or a letter. -/
def readPlain (cs : List Char) : Option (Toml × List Char) :=
  match cs with
  | 't' :: 'r' :: 'u' :: 'e' :: rest => some (boolean true, rest)
  | 'f' :: 'a' :: 'l' :: 's' :: 'e' :: rest => some (boolean false, rest)
  | cs =>
    if startsDate cs || startsTime cs then
      (readDatetime cs).map fun rest => (datetime, rest)
    else
      readNumber cs

end Toml
end TableLexer
