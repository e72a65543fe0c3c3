import TableLexer.Pattern.Flags
import TableLexer.Text.Digits

/-!
# Escapes

What a backslash and the characters behind it stand for: a character, a set of characters,
or a question about a place.  A letter or a digit that has no meaning behind a backslash is
refused, and so is a property class of a name that the tables handed on with the flags do
not know.
-/

namespace TableLexer
namespace Pattern

/-- The meaning of an escape. -/
inductive Escape where
  | char (c : Char)
  | set (s : CharSet)
  | look (l : Look)
deriving DecidableEq, Repr

namespace Escape

/-- The character may follow a backslash and then stands for itself. -/
def standsForItself (c : Char) : Bool :=
  c.toNat < 128 && !c.isAlphanum && c != '<' && c != '>'

/-- The control character that a letter stands for. -/
def control? : Char → Option Char
  | 'a' => some '\x07'
  | 'f' => some '\x0c'
  | 't' => some '\t'
  | 'n' => some '\n'
  | 'r' => some '\r'
  | 'v' => some '\x0b'
  | _ => none

/-- The set that a letter stands for; a capital stands for the characters outside. -/
def set? (flags : Flags) : Char → Option CharSet
  | 's' => some blank
  | 'S' => flags.negate? blank
  | 'd' => some digit
  | 'D' => flags.negate? digit
  | 'w' => some word
  | 'W' => flags.negate? word
  | _ => none
where
  /-- The blank characters under the flags. -/
  blank : CharSet := if flags.unicode then .blank else .asciiBlank
  /-- The digits under the flags. -/
  digit : CharSet := if flags.unicode then .digit else .asciiDigit
  /-- The characters of words under the flags. -/
  word : CharSet := if flags.unicode then .word else .asciiWord

/-- The side of a word that a name in braces asks for. -/
def side? : List Char → Option WordSide
  | ['s', 't', 'a', 'r', 't'] => some .start
  | ['e', 'n', 'd'] => some .stop
  | ['s', 't', 'a', 'r', 't', '-', 'h', 'a', 'l', 'f'] => some .halfStart
  | ['e', 'n', 'd', '-', 'h', 'a', 'l', 'f'] => some .halfStop
  | _ => none

/-- The character may stand in the name of a side. -/
def isSideChar (c : Char) : Bool :=
  c.isAlpha || c == '-'

/-- Reads the name of a side and the brace behind it.  The number bounds the characters
read. -/
def readSide (flags : Flags) : Nat → List Char → List Char → Option (WordSide × List Char)
  | 0, _, _ => none
  | _ + 1, _, [] => none
  | n + 1, found, c :: rest =>
    if c = '\x7d' then (side? found.reverse).map fun side => (side, rest)
    else if isSideChar c then readSide flags n (c :: found) (flags.skip rest)
    else none

/-- Reads what follows `\b`: a side in braces, or nothing, if the brace begins a
repetition. -/
def readEdge (flags : Flags) : List Char → Option (WordSide × List Char)
  | '\x7b' :: rest =>
    match flags.skip rest with
    | [] => none
    | c :: more =>
      if isSideChar c then readSide flags (more.length + 2) [] (c :: more)
      else some (.edge, '\x7b' :: rest)
  | cs => some (.edge, cs)

/-- The character of a code point. -/
def charOf? (n : Nat) : Option Char :=
  if n.isValidChar then some (Char.ofNat n) else none

/-- Reads exactly so many hexadecimal digits on top of a number. -/
def readHex (flags : Flags) : Nat → Nat → List Char → Option (Nat × List Char)
  | 0, value, cs => some (value, cs)
  | _ + 1, _, [] => none
  | n + 1, value, c :: rest =>
    match Text.hexValue? c with
    | some d => readHex flags n (value * 16 + d) (flags.skip rest)
    | none => none

/-- Reads hexadecimal digits up to a closing brace.  The number bounds the characters
read. -/
def readHexBraced (flags : Flags) : Nat → Option Nat → List Char → Option (Nat × List Char)
  | 0, _, _ => none
  | _ + 1, _, [] => none
  | n + 1, value, c :: rest =>
    if c = '\x7d' then
      value.map fun v => (v, flags.skip rest)
    else
      match Text.hexValue? c with
      | some d => readHexBraced flags n (some (value.getD 0 * 16 + d)) (flags.skip rest)
      | none => none

/--
Reads the digits of a character given by its code point: so many of them, or any number in
braces.  `single` says that the digits write one byte; without Unicode such a byte has to
be ASCII.
-/
def readCode (flags : Flags) (digits : Nat) (single : Bool) (cs : List Char) :
    Option (Escape × List Char) :=
  match flags.skip cs with
  | '\x7b' :: rest =>
    match readHexBraced flags (rest.length + 1) none (flags.skip rest) with
    | some (n, rest) => (charOf? n).map fun c => (char c, rest)
    | none => none
  | cs =>
    match readHex flags digits 0 cs with
    | some (n, rest) =>
      if single && !flags.unicode && 128 ≤ n then none
      else (charOf? n).map fun c => (char c, rest)
    | none => none

/-- Reads a text up to its closing brace.  The number bounds the characters read. -/
def readBraced (flags : Flags) :
    Nat → List Char → List Char → Option (List Char × List Char)
  | 0, _, _ => none
  | _ + 1, _, [] => none
  | n + 1, found, c :: rest =>
    if c = '\x7d' then some (found.reverse, rest)
    else readBraced flags n (c :: found) (flags.skip rest)

/-- Reads what the class of a property is asked for by: one character, or a text in
braces. -/
def readPropertyName (flags : Flags) (cs : List Char) :
    Option (PropertyName × List Char) :=
  match flags.skip cs with
  | [] | '\\' :: _ => none
  | '\x7b' :: rest =>
    (readBraced flags (rest.length + 1) [] (flags.skip rest)).map fun (asked, rest) =>
      (.ofText asked, rest)
  | c :: rest => some (⟨[c], none⟩, rest)

/-- Reads the class of a property, or what lies outside of it. -/
def readProperty (flags : Flags) (negated : Bool) (cs : List Char) :
    Option (Escape × List Char) :=
  match readPropertyName flags cs with
  | some (name, rest) => (flags.property? negated name).map fun s => (set s, rest)
  | none => none

/-- Reads an escape, given what follows the backslash. -/
def read (flags : Flags) : List Char → Option (Escape × List Char)
  | [] => none
  | c :: rest =>
    if standsForItself c then
      some (char c, rest)
    else
      match control? c with
      | some d => some (char d, rest)
      | none =>
        match set? flags c with
        | some s => some (set s, rest)
        | none =>
          match c with
          | 'x' => readCode flags 2 true rest
          | 'u' => readCode flags 4 false rest
          | 'U' => readCode flags 8 false rest
          | 'p' => readProperty flags false rest
          | 'P' => readProperty flags true rest
          | 'A' => some (look .textStart, rest)
          | 'z' => some (look .textEnd, rest)
          | 'B' => some (look (.word .noEdge flags.unicode), rest)
          | '<' => some (look (.word .start flags.unicode), rest)
          | '>' => some (look (.word .stop flags.unicode), rest)
          | 'b' =>
            (readEdge flags rest).map fun (side, rest) =>
              (look (.word side flags.unicode), rest)
          | _ => none

end Escape

end Pattern
end TableLexer
