import TableLexer.Pattern.Footprint
import TableLexer.Pattern.Run
import TableLexer.Pattern.Walk

/-!
# Matching

A matcher finds the leftmost match of a pattern and, of the matches at its place, the most
preferred one.  A plain pattern that is cheap to walk is walked; every other pattern runs
as an automaton.
-/

namespace TableLexer
namespace Pattern

/-- A way to match a pattern at a place. -/
inductive Engine where
  | walk (p : Plain)
  | run (a : Automaton)
deriving DecidableEq, Repr

namespace Engine

/-- The way to match a pattern. -/
def ofPattern (p : Pattern) : Engine :=
  match p.plain? with
  | some q => if q.isCheap then walk q else run (.ofPattern p)
  | none => run (.ofPattern p)

/-- The characters passed at the end of the most preferred match from the cursor. -/
def stop? (e : Engine) (c : Cursor) : Option Nat :=
  match e with
  | walk p => p.stop? c
  | run a => (a.take? c.before c.rest).map (c.passed + ·)

end Engine

/-- A way to match a pattern, and whether it can match at the start of the text only. -/
structure Matcher where
  engine : Engine
  anchored : Bool
deriving DecidableEq, Repr

/-- Where a match begins and ends, in characters from the start of the text. -/
structure Occurrence where
  first : Nat
  stop : Nat
deriving DecidableEq, Repr

namespace Matcher

/-- The matcher of a pattern, unless the pattern is too large. -/
def ofPattern? (p : Pattern) : Option Matcher :=
  if p.fits then some ⟨.ofPattern p, p.isAnchored⟩ else none

/-- The first place, from the given one on, at which the pattern matches, and where it
ends. -/
def searchFrom (e : Engine) (before : Option Char) (passed : Nat) (rest : List Char) :
    Option Occurrence :=
  match e.stop? ⟨before, rest, passed⟩ with
  | some stop => some ⟨passed, stop⟩
  | none =>
    match rest with
    | [] => none
    | x :: rest => searchFrom e (some x) (passed + 1) rest

/-- The leftmost match of the pattern in the text, the most preferred one at its place. -/
def search (m : Matcher) (text : List Char) : Option Occurrence :=
  if m.anchored then
    (m.engine.stop? (.start text)).map fun stop => ⟨0, stop⟩
  else
    searchFrom m.engine none 0 text

end Matcher

end Pattern
end TableLexer
