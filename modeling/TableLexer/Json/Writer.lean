import TableLexer.Json.Basic

/-!
# Writing JSON

Two layouts of one value: the compact one without blanks, and the indented one, which puts
every element and field on a line of its own and indents by two spaces.  Strings escape
quotes, backslashes and control characters only; an empty array or object stays closed in
both layouts.
-/

namespace TableLexer
namespace Json

/-- The hexadecimal digit of a number below 16, in small letters. -/
def hexDigit (n : Nat) : Char :=
  (Nat.toDigits 16 (n % 16)).headD '0'

/-- The escaped form of one character. -/
def escapeChar (c : Char) : List Char :=
  match c with
  | '"' => ['\\', '"']
  | '\\' => ['\\', '\\']
  | '\x08' => ['\\', 'b']
  | '\x0c' => ['\\', 'f']
  | '\n' => ['\\', 'n']
  | '\r' => ['\\', 'r']
  | '\t' => ['\\', 't']
  | c =>
    if c.toNat < 32 then
      ['\\', 'u', '0', '0', hexDigit (c.toNat / 16), hexDigit c.toNat]
    else
      [c]

/-- The text as a JSON string. -/
def writeText (s : String) : List Char :=
  '"' :: s.toList.flatMap escapeChar ++ ['"']

/-- A string value; one without a text is written as `null`. -/
def writeOptionalText : Option String → List Char
  | some s => writeText s
  | none => "null".toList

mutual

/-- The value without blanks. -/
def writeCompact : Json → List Char
  | null => "null".toList
  | bool true => "true".toList
  | bool false => "false".toList
  | number literal => literal.toList
  | string text => writeOptionalText text
  | array elements => '[' :: writeElements elements ++ [']']
  | object fields => '\x7b' :: writeFields fields ++ ['\x7d']

/-- The elements of an array between commas. -/
def writeElements : List Json → List Char
  | [] => []
  | [v] => v.writeCompact
  | v :: w :: rest => v.writeCompact ++ ',' :: writeElements (w :: rest)

/-- The fields of an object between commas. -/
def writeFields : List (Option String × Json) → List Char
  | [] => []
  | [(key, v)] => writeOptionalText key ++ ':' :: v.writeCompact
  | (key, v) :: f :: rest =>
    writeOptionalText key ++ ':' :: v.writeCompact ++ ',' :: writeFields (f :: rest)

end

/-- A new line indented to the depth. -/
def newLine (depth : Nat) : List Char :=
  '\n' :: List.replicate (2 * depth) ' '

mutual

/-- The value over several lines, its own line being indented to the depth. -/
def writeIndented (depth : Nat) : Json → List Char
  | null => "null".toList
  | bool true => "true".toList
  | bool false => "false".toList
  | number literal => literal.toList
  | string text => writeOptionalText text
  | array [] => ['[', ']']
  | array (v :: rest) =>
    '[' :: writeElementLines (depth + 1) (v :: rest) ++ newLine depth ++ [']']
  | object [] => ['\x7b', '\x7d']
  | object (f :: rest) =>
    '\x7b' :: writeFieldLines (depth + 1) (f :: rest) ++ newLine depth ++ ['\x7d']

/-- The elements of an array, each on a line of its own. -/
def writeElementLines (depth : Nat) : List Json → List Char
  | [] => []
  | [v] => newLine depth ++ v.writeIndented depth
  | v :: w :: rest =>
    newLine depth ++ v.writeIndented depth ++ ',' :: writeElementLines depth (w :: rest)

/-- The fields of an object, each on a line of its own. -/
def writeFieldLines (depth : Nat) : List (Option String × Json) → List Char
  | [] => []
  | [(key, v)] =>
    newLine depth ++ writeOptionalText key ++ ':' :: ' ' :: v.writeIndented depth
  | (key, v) :: f :: rest =>
    newLine depth ++ writeOptionalText key ++ ':' :: ' ' :: v.writeIndented depth ++
      ',' :: writeFieldLines depth (f :: rest)

end

/-- The value as compact JSON text. -/
def compact (v : Json) : String :=
  String.ofList v.writeCompact

/-- The value as indented JSON text. -/
def indented (v : Json) : String :=
  String.ofList (v.writeIndented 0)

end Json
end TableLexer
