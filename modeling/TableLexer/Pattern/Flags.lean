import TableLexer.Pattern.Look
import TableLexer.Pattern.Property

/-!
# Flags

How the text of a pattern is read.  A flag is named by a letter and holds from where it is
set to the end of the group that it is set in.  The tables of the property classes are
handed on together with the flags; no letter changes them.
-/

namespace TableLexer
namespace Pattern

/-- How the text of a pattern is read. -/
structure Flags where
  /-- Letters match in either case. -/
  anyCase : Bool := false
  /-- The dot matches a line feed too. -/
  dotAll : Bool := false
  /-- Repetitions are lazy unless marked. -/
  lazyFirst : Bool := false
  /-- Classes hold Unicode characters, not ASCII characters alone. -/
  unicode : Bool := true
  /-- `^` and `$` stand for the ends of lines. -/
  multiLine : Bool := false
  /-- A line may end with a carriage return too. -/
  anyLineEnd : Bool := false
  /-- Blanks and comments stand for nothing. -/
  spaced : Bool := false
  /-- The classes of characters that share a property. -/
  properties : PropertyClasses := .held

namespace Flags

/-- Sets or clears the flag of a letter. -/
def set? (flags : Flags) (value : Bool) : Char → Option Flags
  | 'i' => some { flags with anyCase := value }
  | 's' => some { flags with dotAll := value }
  | 'U' => some { flags with lazyFirst := value }
  | 'u' => some { flags with unicode := value }
  | 'm' => some { flags with multiLine := value }
  | 'R' => some { flags with anyLineEnd := value }
  | 'x' => some { flags with spaced := value }
  | _ => none

/-- The set read under the flags. -/
def apply (flags : Flags) (s : CharSet) : CharSet :=
  if flags.anyCase then
    if flags.unicode then s.anyCase else s.anyAsciiCase
  else
    s

/-- The text behind blanks and comments; a comment goes from `#` to the end of its line. -/
def dropIgnored (inComment : Bool) : List Char → List Char
  | [] => []
  | c :: rest =>
    if inComment then dropIgnored (c != '\n') rest
    else if c = '#' then dropIgnored true rest
    else if Text.isBlank c then dropIgnored false rest
    else c :: rest

/-- The text behind what stands for nothing under the flags. -/
def skip (flags : Flags) (cs : List Char) : List Char :=
  if flags.spaced then dropIgnored false cs else cs

/--
Splits off the characters at the head of the text that pass the test, past what stands for
nothing between them.  `found` holds those split off so far, the newest first.
-/
def spanOnto (flags : Flags) (test : Char → Bool) (found : List Char) (inComment : Bool) :
    List Char → List Char × List Char
  | [] => (found.reverse, [])
  | c :: rest =>
    if inComment then flags.spanOnto test found (c != '\n') rest
    else if test c then flags.spanOnto test (c :: found) false rest
    else if flags.spaced && c == '#' then flags.spanOnto test found true rest
    else if flags.spaced && Text.isBlank c then flags.spanOnto test found false rest
    else (found.reverse, c :: rest)

/-- The characters at the head of the text that pass the test, and the text behind them. -/
def span (flags : Flags) (test : Char → Bool) (cs : List Char) : List Char × List Char :=
  flags.spanOnto test [] false cs

/-- The set of a negated class; without Unicode it would hold parts of characters. -/
def negate? (flags : Flags) (s : CharSet) : Option CharSet :=
  if flags.unicode then some s.compl else none

/-- The class of a property, or what lies outside of it; without Unicode there are none. -/
def property? (flags : Flags) (negated : Bool) (name : PropertyName) : Option CharSet :=
  if flags.unicode then
    (flags.properties name).map fun ranges =>
      let s := flags.apply (.ofRanges ranges)
      if negated then s.compl else s
  else
    none

/-- What `^` asks of a place. -/
def lineStart (flags : Flags) : Look :=
  if flags.multiLine then
    if flags.anyLineEnd then .anyLineStart else .lineStart
  else
    .textStart

/-- What `$` asks of a place. -/
def lineEnd (flags : Flags) : Look :=
  if flags.multiLine then
    if flags.anyLineEnd then .anyLineEnd else .lineEnd
  else
    .textEnd

/-- The set of the dot; without Unicode it would hold parts of characters. -/
def dot? (flags : Flags) : Option CharSet :=
  if !flags.unicode then none
  else if flags.dotAll then some .all
  else if flags.anyLineEnd then some (CharSet.union (.single '\n') (.single '\r')).compl
  else some (CharSet.single '\n').compl

end Flags

end Pattern
end TableLexer
