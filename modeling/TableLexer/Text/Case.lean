import TableLexer.Text.CaseTables

/-!
# Letter case

Two readings of letter case.  The ASCII one moves the 26 letters only; identifiers and the
candidates of a directory search go through it.  The Unicode one is the full lower-case
mapping: one capital (`İ`) becomes two characters, and a capital sigma at the end of a word
becomes the final small sigma.
-/

namespace TableLexer
namespace Text

/-- The text with the 26 ASCII capitals made small. -/
def asciiLower (s : String) : String :=
  s.map Char.toLower

/-- The texts agree once ASCII capitals are made small. -/
def sameIgnoringAsciiCase (s t : String) : Bool :=
  asciiLower s == asciiLower t

/-- The image of the character under a table of case runs; a character outside the table
stays. -/
def mapCase (runs : List CaseRun) (c : Char) : Char :=
  match runs.findSome? fun r => r.image? c.toNat with
  | some n => Char.ofNat n
  | none => c

/-- The character has the property `Cased`. -/
def isCased (c : Char) : Bool :=
  casedRanges.contains c

/-- The character has the property `Case_Ignorable`. -/
def isCaseIgnorable (c : Char) : Bool :=
  caseIgnorableRanges.contains c

/-- After characters that case ignores, the text goes on with a cased one. -/
def startsCased (cs : List Char) : Bool :=
  match cs.dropWhile isCaseIgnorable with
  | c :: _ => isCased c
  | [] => false

/-- The lower case of one character between the text before it, nearest first, and the text
after. -/
def lowerAt (before : List Char) (c : Char) (after : List Char) : List Char :=
  if c = 'Σ' then
    if startsCased before && !startsCased after then ['ς'] else ['σ']
  else if c = 'İ' then
    ['i', '\u0307']
  else
    [mapCase lowerRuns c]

/-- The full lower case of the text that follows `before`, which is given nearest first. -/
def lowerFrom (before : List Char) : List Char → List Char
  | [] => []
  | c :: rest => lowerAt before c rest ++ lowerFrom (c :: before) rest

/-- The full Unicode lower case of a text. -/
def lower (s : String) : String :=
  String.ofList (lowerFrom [] s.toList)

end Text
end TableLexer
