import TableLexer.Text.HiddenTable

/-!
# Quoted text

A text shown between double quotes so that it can be told apart from every other: quotes,
backslashes and the common controls are escaped by a letter, and a character without a
glyph of its own is shown by its code point in hexadecimal, as in `\u{200b}`.
-/

namespace TableLexer
namespace Text

/-- The character is not shown as it is. -/
def isHidden (c : Char) : Bool :=
  hiddenRanges.contains c

/-- The digits of a number in base 16, in small letters. -/
def hexDigits (n : Nat) : List Char :=
  Nat.toDigits 16 n

/-- The quoted form of one character. -/
def quoteChar (c : Char) : List Char :=
  match c with
  | '"' => ['\\', '"']
  | '\\' => ['\\', '\\']
  | '\n' => ['\\', 'n']
  | '\r' => ['\\', 'r']
  | '\t' => ['\\', 't']
  | '\x00' => ['\\', '0']
  | c =>
    if isHidden c then
      ['\\', 'u', '\x7b'] ++ hexDigits c.toNat ++ ['\x7d']
    else
      [c]

/-- The text between double quotes, with its characters in quoted form. -/
def quoted (s : String) : String :=
  String.ofList ('"' :: s.toList.flatMap quoteChar ++ ['"'])

/-- An optional text: `None`, or `Some` around the quoted text. -/
def quotedOption : Option String → String
  | none => "None"
  | some s => "Some(" ++ quoted s ++ ")"

end Text
end TableLexer
