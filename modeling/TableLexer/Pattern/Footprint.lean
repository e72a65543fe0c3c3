import TableLexer.Pattern.Basic
import TableLexer.Text.Bytes
import TableLexer.Text.ByteRanges

/-!
# The size of a pattern

A pattern stands for an automaton over the bytes of a text, and a pattern whose automaton
would grow too large is refused.  The automaton is never built: its size is counted from
the pattern.  It is counted twice, for reading forward and for reading backward, because a
class shares the ends of its byte sequences in the first and their beginnings in the
second.
-/

namespace TableLexer
namespace Pattern

/-- The direction in which an automaton reads. -/
inductive Direction where
  | forward
  | backward
deriving DecidableEq, Repr

/-- The size of an automaton: its states, and the bytes that they take besides their
own. -/
structure Footprint where
  states : Nat
  extra : Nat
deriving DecidableEq, Repr

namespace Footprint

instance : Add Footprint := ⟨fun a b => ⟨a.states + b.states, a.extra + b.extra⟩⟩

/-- The size, so many times. -/
def times (n : Nat) (f : Footprint) : Footprint :=
  ⟨n * f.states, n * f.extra⟩

/-- States without anything besides. -/
def plain (n : Nat) : Footprint := ⟨n, 0⟩

/-- A state with two ways out. -/
def fork : Footprint := ⟨1, 8⟩

/-- The size in bytes; a state takes 32. -/
def bytes (f : Footprint) : Nat :=
  32 * f.states + f.extra

/-- The size of a class; ASCII characters need one step, and every other class a step a
byte. -/
def ofSet (d : Direction) (s : CharSet) : Footprint :=
  if s.isAscii then
    ⟨2, 8 * s.ranges.length⟩
  else
    let sequences := s.ranges.sequences
    match d with
    | .forward =>
      let nodes := (Text.remainders 4 sequences).eraseDups
      nodes.foldl (fun f node => f + ⟨1, 8 * (Text.followers node).length⟩) (plain 1)
    | .backward => ⟨2 + Text.countBeginnings [] sequences, 4 * sequences.length⟩

/-- The size of rounds of a part, given its size and whether every round takes a
character. -/
def ofRounds (part : Footprint) (takesSome : Bool) (bounds : Bounds) : Footprint :=
  match bounds.least, bounds.most with
  | 0, none => if takesSome then part + fork else part + fork + fork + plain 1
  | n + 1, none => part.times (n + 1) + fork
  | 0, some 1 => part + fork + plain 1
  | least, some most =>
    let needed := if least = 0 then plain 1 else part.times least
    if least = most then needed else needed + plain 1 + (part + fork).times (most - least)

end Footprint

/-- The size of a pattern's part of the automaton.  Groups are marked when reading forward
only. -/
def footprint (d : Direction) : Pattern → Footprint
  | empty | look _ => .plain 1
  | text cs => .plain (Text.byteCount cs)
  | one s => .ofSet d s
  | rounds p bounds _ => .ofRounds (p.footprint d) p.takesSome bounds
  | group _ p =>
    match d with
    | .forward => p.footprint d + .plain 2
    | .backward => p.footprint d
  | seq p q => p.footprint d + q.footprint d
  | alt p q => p.footprint d + q.footprint d + ⟨0, 4⟩ + branchEnd q
where
  /-- A choice has two states of its own, and every branch is one more way out. -/
  branchEnd : Pattern → Footprint
    | alt _ _ => ⟨0, 0⟩
    | _ => ⟨2, 4⟩

/-- The size of the automaton that looks for the pattern: behind a part that passes over
the text, unless the pattern holds it at an end of the text, and with a state for the
match. -/
def searchFootprint (d : Direction) (p : Pattern) : Footprint :=
  let skip (held : Bool) : Footprint := if held then .plain 1 else ⟨3, 16⟩
  match d with
  | .forward => skip (p.beginsWith .textStart) + p.footprint d + .plain 3
  | .backward => skip (p.endsWith .textEnd) + p.footprint d + .plain 1

/-- The largest automaton, in bytes. -/
def maxBytes : Nat := 10 * 1024 * 1024

/-- The pattern's automaton stays within the limit in both directions. -/
def fits (p : Pattern) : Bool :=
  (p.searchFootprint .forward).bytes ≤ maxBytes &&
    (p.searchFootprint .backward).bytes ≤ maxBytes

end Pattern
end TableLexer
