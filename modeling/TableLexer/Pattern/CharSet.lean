import TableLexer.Text.Blank
import TableLexer.Text.Case
import TableLexer.Text.Letter

/-!
# Sets of characters

The classes of a pattern.  A set is kept in one form only: closed ranges of code points in
ascending order, joined wherever nothing lies between them.  So two sets are equal exactly
when they hold the same characters, which is what lets equal parts of a pattern be
recognized.  `CharSet.contains` is the only reading of a set.
-/

namespace TableLexer
namespace Pattern

/-- A set of characters: closed ranges of code points in ascending order, none touching the
next. -/
structure CharSet where
  ranges : Text.CodeRanges
deriving DecidableEq, Repr

namespace CharSet

/-- The last code point. -/
def lastCode : Nat := 0x10FFFF

/-- The code point of the next character; surrogates are no characters. -/
def codeAfter (n : Nat) : Nat :=
  if n = 0xD7FF then 0xE000 else n + 1

/-- The code point of the character before. -/
def codeBefore (n : Nat) : Nat :=
  if n = 0xE000 then 0xD7FF else n - 1

/-- The code point lies in one of the ranges, which ascend. -/
def covers (n : Nat) : Text.CodeRanges → Bool
  | [] => false
  | (first, last) :: rest => if n < first then false else n ≤ last || covers n rest

/-- The character belongs to the set. -/
def contains (s : CharSet) (c : Char) : Bool :=
  covers c.toNat s.ranges

/-- The ranges with one more, joined with those that it meets. -/
def insertRange (first last : Nat) : Text.CodeRanges → Text.CodeRanges
  | [] => [(first, last)]
  | (a, b) :: rest =>
    if codeAfter b < first then
      (a, b) :: insertRange first last rest
    else if codeAfter last < a then
      (first, last) :: (a, b) :: rest
    else
      insertRange (min first a) (max last b) rest

/-- The ranges between the given ones, from a code point on. -/
def gaps (start : Nat) : Text.CodeRanges → Text.CodeRanges
  | [] => if start ≤ lastCode then [(start, lastCode)] else []
  | (a, b) :: rest =>
    if start < a then (start, codeBefore a) :: gaps (codeAfter b) rest
    else gaps (codeAfter b) rest

/-- No character. -/
def none : CharSet := ⟨[]⟩

/-- Every character. -/
def all : CharSet := ⟨[(0, lastCode)]⟩

/-- The characters from one to another. -/
def range (first last : Char) : CharSet :=
  ⟨[(first.toNat, last.toNat)]⟩

/-- The set of one character. -/
def single (c : Char) : CharSet :=
  range c c

/-- The characters of either set. -/
def union (s t : CharSet) : CharSet :=
  ⟨t.ranges.foldl (fun found r => insertRange r.1 r.2 found) s.ranges⟩

/-- The union of the sets in a list. -/
def unions (sets : List CharSet) : CharSet :=
  sets.foldl union none

/-- The characters of ranges that may overlap and stand in any order. -/
def ofRanges (ranges : Text.CodeRanges) : CharSet :=
  none.union ⟨ranges⟩

/-- The characters outside the set. -/
def compl (s : CharSet) : CharSet :=
  ⟨gaps 0 s.ranges⟩

/-- The characters of both sets. -/
def inter (s t : CharSet) : CharSet :=
  (s.compl.union t.compl).compl

/-- The characters of the first set that are not in the second. -/
def diff (s t : CharSet) : CharSet :=
  s.inter t.compl

/-- The characters of exactly one of the sets. -/
def symDiff (s t : CharSet) : CharSet :=
  (s.union t).diff (s.inter t)

/-- The set holds no character. -/
def isEmpty (s : CharSet) : Bool :=
  s.ranges.isEmpty

/-- The set holds ASCII characters only. -/
def isAscii (s : CharSet) : Bool :=
  s.ranges.all fun r => r.2 < 128

/-- The only character of the set, if it holds exactly one. -/
def only? (s : CharSet) : Option Char :=
  match s.ranges with
  | [(first, last)] => if first = last then some (Char.ofNat first) else .none
  | _ => .none

/-- The ranges with the code points for which the test on a pair's first part holds
added. -/
def addImages (found : Text.CodeRanges) (pairs : List (Nat × Nat)) : Text.CodeRanges :=
  pairs.foldl (fun found p =>
    if covers p.1 found then insertRange p.2 p.2 found else found) found

/-- The set with all that differs from a member in case only. -/
def anyCase (s : CharSet) : CharSet :=
  let pairs := Text.foldRuns.flatMap Text.CaseRun.pairs
  ⟨addImages (addImages s.ranges pairs) (pairs.map Prod.swap)⟩

/-- The set with the other case of its ASCII letters. -/
def anyAsciiCase (s : CharSet) : CharSet :=
  let pairs := (List.range 26).map fun n => (0x41 + n, 0x61 + n)
  ⟨addImages (addImages s.ranges pairs) (pairs.map Prod.swap)⟩

/-- The blank characters. -/
def blank : CharSet := ⟨Text.blankRanges⟩

/-- The decimal digits. -/
def digit : CharSet := ⟨Text.digitRanges⟩

/-- The characters of words. -/
def word : CharSet :=
  unions [⟨Text.alphabeticRanges⟩, ⟨Text.digitRanges⟩, ⟨Text.joinerRanges⟩]

/-- The blank ASCII characters. -/
def asciiBlank : CharSet :=
  union (range '\t' '\r') (single ' ')

/-- The ASCII digits. -/
def asciiDigit : CharSet :=
  range '0' '9'

/-- The ASCII letters. -/
def asciiLetter : CharSet :=
  union (range 'a' 'z') (range 'A' 'Z')

/-- The ASCII letters and digits. -/
def asciiAlphanumeric : CharSet :=
  union asciiLetter asciiDigit

/-- The ASCII letters, the ASCII digits and `_`. -/
def asciiWord : CharSet :=
  union asciiAlphanumeric (single '_')

/-- The classes of ASCII characters that have a name. -/
def named? : String → Option CharSet
  | "alnum" => some asciiAlphanumeric
  | "alpha" => some asciiLetter
  | "ascii" => some (range '\x00' '\x7f')
  | "blank" => some (union (single '\t') (single ' '))
  | "cntrl" => some (union (range '\x00' '\x1f') (single '\x7f'))
  | "digit" => some asciiDigit
  | "graph" => some (range '!' '~')
  | "lower" => some (range 'a' 'z')
  | "print" => some (range ' ' '~')
  | "punct" =>
    some (unions [range '!' '/', range ':' '@', range '[' (Char.ofNat 0x60),
      range '\x7b' '~'])
  | "space" => some asciiBlank
  | "upper" => some (range 'A' 'Z')
  | "word" => some asciiWord
  | "xdigit" => some (unions [asciiDigit, range 'A' 'F', range 'a' 'f'])
  | _ => .none

theorem contains_blank (c : Char) : blank.contains c = Text.isBlank c := by
  rw [Bool.eq_iff_iff]
  simp [contains, blank, Text.isBlank, Text.CodeRanges.contains, Text.blankRanges, covers]
  omega

@[simp] theorem contains_none (c : Char) : none.contains c = false := rfl

theorem contains_all (c : Char) : all.contains c = true := by
  have h : c.toNat < 0x110000 := by
    have := c.valid
    simp only [UInt32.isValidChar, Nat.isValidChar] at this
    simp only [Char.toNat]
    omega
  simp [contains, all, covers, lastCode]
  omega

end CharSet

end Pattern
end TableLexer
