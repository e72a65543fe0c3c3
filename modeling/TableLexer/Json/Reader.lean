import TableLexer.Json.Basic
import TableLexer.Text.Digits

/-!
# Reading JSON

`Json.read?` accepts exactly one value with blanks around it.  Numbers have no leading
zeros, strings no bare control characters, and nothing may follow a comma but a further
element.  An escape may name half of a surrogate pair; the string is then read, but has no
text.
-/

namespace TableLexer
namespace Json

/-- The character may stand between the parts of a JSON text. -/
def isSpace (c : Char) : Bool :=
  c == ' ' || c == '\n' || c == '\t' || c == '\r'

/-- The text without the blanks at its head. -/
def skipSpace (cs : List Char) : List Char :=
  cs.dropWhile isSpace

/-- The number that four hexadecimal digits write. -/
def hexUnit? (a b c d : Char) : Option Nat := do
  let a ← Text.hexValue? a
  let b ← Text.hexValue? b
  let c ← Text.hexValue? c
  let d ← Text.hexValue? d
  return ((a * 16 + b) * 16 + c) * 16 + d

/-- The character that a letter after a backslash stands for. -/
def simpleEscape? : Char → Option Char
  | '"' => some '"'
  | '\\' => some '\\'
  | '/' => some '/'
  | 'b' => some '\x08'
  | 'f' => some '\x0c'
  | 'n' => some '\n'
  | 'r' => some '\r'
  | 't' => some '\t'
  | _ => none

/-- The unit is the first half of a surrogate pair. -/
def isHighHalf (u : Nat) : Bool :=
  0xD800 ≤ u && u ≤ 0xDBFF

/-- The unit is the second half of a surrogate pair. -/
def isLowHalf (u : Nat) : Bool :=
  0xDC00 ≤ u && u ≤ 0xDFFF

/-- A part of a string: a character, or a 16-bit unit that an escape names. -/
inductive StringPart where
  | char (c : Char)
  | unit (u : Nat)
deriving DecidableEq, Repr

/-- Reads the parts of a string up to its closing quote, in front of those already read. -/
def readParts (found : List StringPart) : List Char → Option (List StringPart × List Char)
  | [] => none
  | '"' :: rest => some (found.reverse, rest)
  | '\\' :: 'u' :: a :: b :: c :: d :: rest =>
    match hexUnit? a b c d with
    | some u => readParts (.unit u :: found) rest
    | none => none
  | '\\' :: e :: rest =>
    match simpleEscape? e with
    | some c => readParts (.char c :: found) rest
    | none => none
  | c :: rest =>
    if c.toNat < 32 || c == '\\' then none else readParts (.char c :: found) rest

/-- The text of the parts, if the halves of surrogate pairs stand together. -/
def joinParts (found : List Char) : List StringPart → Option (List Char)
  | [] => some found.reverse
  | .char c :: rest => joinParts (c :: found) rest
  | .unit u :: .unit v :: rest =>
    if isHighHalf u && isLowHalf v then
      joinParts (Char.ofNat (0x10000 + (u - 0xD800) * 0x400 + (v - 0xDC00)) :: found) rest
    else if isHighHalf u || isLowHalf u then
      none
    else
      joinParts (Char.ofNat u :: found) (.unit v :: rest)
  | .unit u :: rest =>
    if isHighHalf u || isLowHalf u then none else joinParts (Char.ofNat u :: found) rest

/-- Reads a string whose opening quote has been taken. -/
def readText (cs : List Char) : Option (Option String × List Char) :=
  match readParts [] cs with
  | none => none
  | some (parts, rest) => some ((joinParts [] parts).map String.ofList, rest)

/-- Splits the digits off the head of the text. -/
def spanDigits (cs : List Char) : List Char × List Char :=
  cs.span Char.isDigit

/-- Reads the whole part of a number: a zero alone, or digits that begin with none. -/
def readWhole (cs : List Char) : Option (List Char × List Char) :=
  match spanDigits cs with
  | ([], _) => none
  | ('0' :: _ :: _, _) => none
  | (digits, rest) => some (digits, rest)

/-- Reads the fraction of a number, if there is one. -/
def readFraction : List Char → Option (List Char × List Char)
  | '.' :: rest =>
    match spanDigits rest with
    | ([], _) => none
    | (digits, rest) => some ('.' :: digits, rest)
  | cs => some ([], cs)

/-- Reads the exponent of a number, if there is one. -/
def readExponent : List Char → Option (List Char × List Char)
  | e :: rest =>
    if e == 'e' || e == 'E' then
      let (sign, rest) := match rest with
        | '+' :: rest => (['+'], rest)
        | '-' :: rest => (['-'], rest)
        | rest => ([], rest)
      match spanDigits rest with
      | ([], _) => none
      | (digits, rest) => some (e :: sign ++ digits, rest)
    else
      some ([], e :: rest)
  | [] => some ([], [])

/-- Reads a number as it is written. -/
def readNumber (cs : List Char) : Option (String × List Char) := do
  let (sign, cs) := match cs with
    | '-' :: rest => (['-'], rest)
    | cs => ([], cs)
  let (whole, cs) ← readWhole cs
  let (fraction, cs) ← readFraction cs
  let (exponent, cs) ← readExponent cs
  return (String.ofList (sign ++ whole ++ fraction ++ exponent), cs)

/-- The text without the given beginning. -/
def dropWord? : List Char → List Char → Option (List Char)
  | [], cs => some cs
  | w :: word, c :: cs => if w = c then dropWord? word cs else none
  | _ :: _, [] => none

mutual

/--
Reads a value at the head of the text, which begins with no blank.  The number bounds the
steps; the length of the text is enough, since every step takes a character.
-/
def readValue : Nat → List Char → Option (Json × List Char)
  | 0, _ => none
  | n + 1, cs =>
    match cs with
    | [] => none
    | '"' :: rest => (readText rest).map fun (text, rest) => (.string text, rest)
    | '[' :: rest =>
      match skipSpace rest with
      | ']' :: rest => some (.array [], rest)
      | rest => (readElements n [] rest).map fun (vs, rest) => (.array vs, rest)
    | '\x7b' :: rest =>
      match skipSpace rest with
      | '\x7d' :: rest => some (.object [], rest)
      | rest => (readFields n [] rest).map fun (fs, rest) => (.object fs, rest)
    | 'n' :: _ => (dropWord? "null".toList cs).map fun rest => (.null, rest)
    | 't' :: _ => (dropWord? "true".toList cs).map fun rest => (.bool true, rest)
    | 'f' :: _ => (dropWord? "false".toList cs).map fun rest => (.bool false, rest)
    | cs => (readNumber cs).map fun (literal, rest) => (.number literal, rest)

/-- Reads elements up to the bracket that closes the array, in front of those already
read. -/
def readElements : Nat → List Json → List Char → Option (List Json × List Char)
  | 0, _, _ => none
  | n + 1, found, cs =>
    match readValue n cs with
    | none => none
    | some (v, rest) =>
      match skipSpace rest with
      | ',' :: rest => readElements n (v :: found) (skipSpace rest)
      | ']' :: rest => some ((v :: found).reverse, rest)
      | _ => none

/-- Reads fields up to the brace that closes the object, in front of those already read. -/
def readFields : Nat → List (Option String × Json) → List Char →
    Option (List (Option String × Json) × List Char)
  | 0, _, _ => none
  | n + 1, found, cs =>
    match cs with
    | '"' :: rest =>
      match readText rest with
      | none => none
      | some (key, rest) =>
        match skipSpace rest with
        | ':' :: rest =>
          match readValue n (skipSpace rest) with
          | none => none
          | some (v, rest) =>
            match skipSpace rest with
            | ',' :: rest => readFields n ((key, v) :: found) (skipSpace rest)
            | '\x7d' :: rest => some (((key, v) :: found).reverse, rest)
            | _ => none
        | _ => none
    | _ => none

end

/-- Reads a whole text as one value with blanks around it. -/
def read? (s : String) : Option Json :=
  match readValue (2 * s.length + 2) (skipSpace s.toList) with
  | some (v, rest) => if (skipSpace rest).isEmpty then some v else none
  | none => none

end Json
end TableLexer
