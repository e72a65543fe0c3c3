import TableLexer.Text.Letter

/-!
# Places

What a pattern can ask of a place between two characters: that the text or a line starts or
ends there, or how the place lies to a word.  A question is answered from the two
neighbours alone; at an end of the text a neighbour is missing.
-/

namespace TableLexer
namespace Pattern

/-- How a place lies to a word. -/
inductive WordSide where
  /-- At a start or an end. -/
  | edge
  /-- Neither at a start nor at an end. -/
  | noEdge
  | start
  | stop
  /-- No character of a word before it. -/
  | halfStart
  /-- No character of a word behind it. -/
  | halfStop
deriving DecidableEq, Repr

/-- Whether the side is as asked, given which neighbours belong to a word. -/
def WordSide.holds (before after : Bool) : WordSide → Bool
  | edge => before != after
  | noEdge => before == after
  | start => !before && after
  | stop => before && !after
  | halfStart => !before
  | halfStop => !after

/-- A question about a place. -/
inductive Look where
  | textStart
  | textEnd
  /-- A line starts here; lines end with a line feed. -/
  | lineStart
  | lineEnd
  /-- A line starts here; lines end with a carriage return, a line feed or both. -/
  | anyLineStart
  | anyLineEnd
  /-- The place lies so to a word; words hold ASCII characters only unless marked. -/
  | word (side : WordSide) (unicode : Bool)
deriving DecidableEq, Repr

namespace Look

/-- The character may stand in a word. -/
def inWord (unicode : Bool) (c : Char) : Bool :=
  if unicode then Text.isWord c else Text.isAsciiWord c

/-- The answer for a place with these neighbours. -/
def holds (before after : Option Char) : Look → Bool
  | textStart => before.isNone
  | textEnd => after.isNone
  | lineStart => before.all (· == '\n')
  | lineEnd => after.all (· == '\n')
  | anyLineStart => before.all fun c => c == '\n' || c == '\r' && after != some '\n'
  | anyLineEnd => after.all fun c => c == '\r' || c == '\n' && before != some '\r'
  | word side unicode =>
    side.holds (before.any (inWord unicode)) (after.any (inWord unicode))

end Look

end Pattern
end TableLexer
