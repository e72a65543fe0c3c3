import TableLexer.Pattern.CharSet

/-!
# Property classes

A class may be asked for by a property of its characters: `\p{Alphabetic}` holds the
alphabetic ones, `\P{Alphabetic}` all others, and one letter needs no braces.  Which
properties there are and which characters have them is said by tables and not by patterns.
So the tables are a parameter of the reader (`PropertyClasses`), and the reader only says
what a text asks them for (`PropertyName`).

The library has tables for a few properties of its own needs.  They stand where no others
are given (`PropertyClasses.held`); any other name is unknown to them.
-/

namespace TableLexer
namespace Pattern

/-- What a property class is asked for by: a name, or the name of a property and a value of
it. -/
structure PropertyName where
  name : List Char
  value : Option (List Char) := none
deriving DecidableEq, Repr

namespace PropertyName

/-- Splits a text where the mark stands first; the mark belongs to neither part. -/
def splitAt? (mark : List Char) : List Char → Option (List Char × List Char)
  | [] => none
  | c :: cs =>
    if mark.isPrefixOf (c :: cs) then
      some ([], (c :: cs).drop mark.length)
    else
      (splitAt? mark cs).map fun (name, value) => (c :: name, value)

/-- The marks between a name and a value.  All of them ask for the same. -/
def marks : List (List Char) :=
  [['!', '='], [':'], ['=']]

/-- What a text in braces asks for; a mark that comes first among the marks divides it. -/
def ofText (cs : List Char) : PropertyName :=
  match marks.findSome? fun mark => splitAt? mark cs with
  | some (name, value) => ⟨name, some value⟩
  | none => ⟨cs, none⟩

/-- The form in which names are compared: ASCII characters in small letters, without `is`
in front and without blanks, `_` and `-`. -/
def loose (cs : List Char) : String :=
  let cs := match cs with
    | first :: second :: rest =>
      if first.toLower = 'i' && second.toLower = 's' then rest else cs
    | cs => cs
  let kept := cs.filter fun c => c.toNat < 128 && c != ' ' && c != '_' && c != '-'
  String.ofList (kept.map Char.toLower)

end PropertyName

/-- The classes that a property is asked for by: the code points of each, or nothing if the
name is unknown. -/
def PropertyClasses : Type :=
  PropertyName → Option Text.CodeRanges

namespace PropertyClasses

/-- The classes of the general category that the library holds. -/
def category? : String → Option Text.CodeRanges
  | "any" => some CharSet.all.ranges
  | "ascii" => some [(0, 0x7F)]
  | "nd" | "decimalnumber" | "digit" => some Text.digitRanges
  | _ => none

/-- The classes of the other properties that the library holds. -/
def binary? : String → Option Text.CodeRanges
  | "alphabetic" | "alpha" => some Text.alphabeticRanges
  | "whitespace" | "wspace" | "space" => some Text.blankRanges
  | "cased" => some Text.casedRanges
  | "caseignorable" | "ci" => some Text.caseIgnorableRanges
  | _ => none

/-- The classes that the library holds. -/
def held : PropertyClasses
  | ⟨name, none⟩ =>
    binary? (PropertyName.loose name) <|> category? (PropertyName.loose name)
  | ⟨name, some value⟩ =>
    if PropertyName.loose name ∈ ["gc", "generalcategory"] then
      category? (PropertyName.loose value)
    else
      none

end PropertyClasses

end Pattern
end TableLexer
