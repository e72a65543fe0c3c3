import TableLexer.Pattern.Basic

/-!
# Automata

A pattern as numbered states.  A state takes one character of a set, asks something of a
place, or offers two ways, the first one preferred; one state accepts.  States are made
from the end of the pattern to its start, so that every part is given the state that
follows it.  A repetition without an upper bound has a fork that leads back into its part.
-/

namespace TableLexer
namespace Pattern

/-- A state of an automaton; the numbers name the states that may follow. -/
inductive State where
  | take (s : CharSet) (next : Nat)
  | ask (l : Look) (next : Nat)
  | fork (preferred other : Nat)
  | accept
deriving DecidableEq, Repr

/-- The states, and the number of the one to start from. -/
structure Automaton where
  states : Array State
  start : Nat
deriving DecidableEq, Repr

namespace Automaton

/-- Makes a part that leads to the given state: answers the part's first state and all
states. -/
abbrev Part := Nat → Array State → Nat × Array State

/-- Adds one state. -/
def add (st : State) (states : Array State) : Nat × Array State :=
  (states.size, states.push st)

/-- A fork between going on with a part and leaving it; greedy prefers the part. -/
def choice (greedy : Bool) (part leave : Nat) : State :=
  if greedy then .fork part leave else .fork leave part

/-- The characters one after the other. -/
def ofText (cs : List Char) : Part := fun next states =>
  cs.reverse.foldl (fun (q, states) c => add (.take (.single c) q) states) (next, states)

/-- The part so many times. -/
def times (part : Part) : Nat → Part
  | 0, next, states => (next, states)
  | n + 1, next, states =>
    let (q, states) := part next states
    times part n q states

/-- The part at most so many times; every round may be the last.  `leave` is the state
behind. -/
def upTo (part : Part) (greedy : Bool) (leave : Nat) : Nat → Part
  | 0, next, states => (next, states)
  | n + 1, next, states =>
    let (q, states) := part next states
    let (q, states) := add (choice greedy q leave) states
    upTo part greedy leave n q states

/-- The part and a fork behind it that leads back; answers the part's first state and the
fork. -/
def loop (part : Part) (greedy : Bool) (next : Nat) (states : Array State) :
    Nat × Nat × Array State :=
  let back := states.size
  let (first, states) := part back (states.push .accept)
  (first, back, states.setIfInBounds back (choice greedy first next))

/-- One round of the part or more. -/
def plus (part : Part) (greedy : Bool) : Part := fun next states =>
  let (first, _, states) := loop part greedy next states
  (first, states)

/--
Any number of rounds of the part.  If every round takes a character, the fork behind the
part stands before it too; otherwise a fork of its own stands before the first round.
-/
def star (part : Part) (takesSome greedy : Bool) : Part := fun next states =>
  let (first, back, states) := loop part greedy next states
  if takesSome then (back, states) else add (choice greedy first next) states

/-- The states of a pattern. -/
def ofPart : Pattern → Part
  | empty, next, states => (next, states)
  | text cs, next, states => ofText cs next states
  | one s, next, states => add (.take s next) states
  | look l, next, states => add (.ask l next) states
  | group _ p, next, states => ofPart p next states
  | seq p q, next, states =>
    let (middle, states) := ofPart q next states
    ofPart p middle states
  | alt p q, next, states =>
    let (a, states) := ofPart p next states
    let (b, states) := ofPart q next states
    add (.fork a b) states
  | rounds p bounds greedy, next, states =>
    let part : Part := fun next states => ofPart p next states
    match bounds.least, bounds.most with
    | 0, none => star part p.takesSome greedy next states
    | n + 1, none =>
      let (q, states) := plus part greedy next states
      times part n q states
    | least, some most =>
      let (q, states) := upTo part greedy next (most - least) next states
      times part least q states

/-- The automaton of a pattern. -/
def ofPattern (p : Pattern) : Automaton :=
  let (start, states) := ofPart p 0 #[.accept]
  ⟨states, start⟩

end Automaton

end Pattern
end TableLexer
