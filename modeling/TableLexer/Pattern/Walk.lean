import TableLexer.Pattern.Plain

/-!
# Walking a plain pattern

The walk goes over a text with a cursor and hands every place that it reaches to the rest
of the match, in order of preference, until the rest accepts one.  So the first place that
is accepted is the most preferred one.  A run of a class lists its places without recursion
on the stack.
-/

namespace TableLexer
namespace Pattern

/-- A place in a text: the character before it, the text after it, and the characters
passed. -/
structure Cursor where
  before : Option Char
  rest : List Char
  passed : Nat
deriving DecidableEq, Repr

namespace Cursor

/-- The place before the first character. -/
def start (text : List Char) : Cursor :=
  ⟨none, text, 0⟩

/-- The answer to a question about the place. -/
def satisfies (c : Cursor) (l : Look) : Bool :=
  l.holds c.before c.rest.head?

end Cursor

/-- The places along a run of the set, the furthest first, in front of those already
found. -/
def furthestFirst (s : CharSet) (found : List Cursor) (before : Option Char)
    (passed : Nat) : List Char → List Cursor
  | [] => ⟨before, [], passed⟩ :: found
  | x :: rest =>
    if s.contains x then
      furthestFirst s (⟨before, x :: rest, passed⟩ :: found) (some x) (passed + 1) rest
    else
      ⟨before, x :: rest, passed⟩ :: found

/-- The first place along a run of the set, from the nearest on, that the rest accepts. -/
def nearestFirst {α : Type} (s : CharSet) (next : Cursor → Option α) (before : Option Char)
    (passed : Nat) : List Char → Option α
  | [] => next ⟨before, [], passed⟩
  | x :: rest =>
    match next ⟨before, x :: rest, passed⟩ with
    | some a => some a
    | none => if s.contains x then nearestFirst s next (some x) (passed + 1) rest else none

namespace Plain

/-- The answer of `next` at the most preferred end of a match from the cursor that it
accepts. -/
def find {α : Type} : Plain → (Cursor → Option α) → Cursor → Option α
  | empty, next, c => next c
  | one s, next, c =>
    match c.rest with
    | [] => none
    | x :: rest => if s.contains x then next ⟨some x, rest, c.passed + 1⟩ else none
  | many s true, next, c => (furthestFirst s [] c.before c.passed c.rest).findSome? next
  | many s false, next, c => nearestFirst s next c.before c.passed c.rest
  | look l, next, c => if c.satisfies l then next c else none
  | seq p q, next, c => p.find (fun d => q.find next d) c
  | alt p q, next, c =>
    match p.find next c with
    | some a => some a
    | none => q.find next c

/-- The characters passed at the most preferred end of a match from the cursor. -/
def stop? (p : Plain) (c : Cursor) : Option Nat :=
  (p.find some c).map Cursor.passed

end Plain

end Pattern
end TableLexer
