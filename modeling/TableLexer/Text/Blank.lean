import TableLexer.Text.Ranges

/-!
# Blank characters

A character is blank when it has the Unicode property `White_Space`: 25 code points in ten
ranges.  The same property decides what is trimmed from the ends of an identifier, what a
blank source is, and what the class `\s` of a pattern holds.
-/

namespace TableLexer
namespace Text

/-- The code points with the property `White_Space`. -/
def blankRanges : CodeRanges :=
  [(0x09, 0x0D), (0x20, 0x20), (0x85, 0x85), (0xA0, 0xA0), (0x1680, 0x1680),
   (0x2000, 0x200A), (0x2028, 0x2029), (0x202F, 0x202F), (0x205F, 0x205F),
   (0x3000, 0x3000)]

/-- The character has the property `White_Space`. -/
def isBlank (c : Char) : Bool :=
  blankRanges.contains c

/-- The text without the blank characters at its two ends. -/
def trimBlank (cs : List Char) : List Char :=
  ((cs.dropWhile isBlank).reverse.dropWhile isBlank).reverse

/-- The text holds nothing but blank characters; the empty text is blank. -/
def allBlank (cs : List Char) : Bool :=
  cs.all isBlank

end Text
end TableLexer
