/-!
# Digits

Natural numbers in decimal, filled up with zeros to a least width, the reading of digits at
the head of a text, and the values of hexadecimal digits.
-/

namespace TableLexer
namespace Text

/-- The number in decimal. -/
def decimal (n : Nat) : List Char :=
  Nat.toDigits 10 n

/-- The number in decimal with zeros in front up to the width. -/
def paddedDecimal (width n : Nat) : List Char :=
  let digits := decimal n
  List.replicate (width - digits.length) '0' ++ digits

/-- The number that a run of decimal digits writes. -/
def decimalValue (digits : List Char) : Nat :=
  Nat.ofDigitChars 10 digits 0

/-- Splits off at most `most` digits from the head of the text. -/
def takeDigits : Nat → List Char → List Char × List Char
  | 0, cs => ([], cs)
  | _ + 1, [] => ([], [])
  | most + 1, c :: cs =>
    if c.isDigit then
      let (digits, rest) := takeDigits most cs
      (c :: digits, rest)
    else
      ([], c :: cs)

/-- Reads a number of at least one digit and at most `most`. -/
def readDecimal (most : Nat) (cs : List Char) : Option (Nat × List Char) :=
  match takeDigits most cs with
  | ([], _) => none
  | (digits, rest) => some (decimalValue digits, rest)

/-- The value of a hexadecimal digit in either case. -/
def hexValue? (c : Char) : Option Nat :=
  if c.isDigit then some (c.toNat - '0'.toNat)
  else if 'a' ≤ c && c ≤ 'f' then some (c.toNat - 'a'.toNat + 10)
  else if 'A' ≤ c && c ≤ 'F' then some (c.toNat - 'A'.toNat + 10)
  else none

end Text
end TableLexer
