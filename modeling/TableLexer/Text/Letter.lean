import TableLexer.Text.LetterTable
import TableLexer.Text.NumberTable

/-!
# Letters, digits and words

Which characters are alphabetic, which are numeric, and which may stand in a word.  The
ASCII reading of a word knows letters, digits and `_` alone.
-/

namespace TableLexer
namespace Text

/-- The character has the property `Alphabetic`. -/
def isAlphabetic (c : Char) : Bool :=
  alphabeticRanges.contains c

/-- The character is a decimal digit of some script. -/
def isDecimalDigit (c : Char) : Bool :=
  digitRanges.contains c

/-- The character is a number of any kind; letter numbers are alphabetic already. -/
def isAlphanumeric (c : Char) : Bool :=
  isAlphabetic c || isDecimalDigit c || otherNumberRanges.contains c

/-- The character is an ASCII letter, an ASCII digit or `_`. -/
def isAsciiWord (c : Char) : Bool :=
  c.isAlphanum || c == '_'

/-- The character may stand in a word. -/
def isWord (c : Char) : Bool :=
  isAsciiWord c || isAlphabetic c || isDecimalDigit c || joinerRanges.contains c

end Text
end TableLexer
