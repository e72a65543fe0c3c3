import TableLexer.Pattern.Automaton

/-!
# Running an automaton

All states that a text can lead to are followed at once, in order of preference, one
character at a time.  At a place a state is found once, where it is reached first; whatever
reaches it later, be it only a further round of a repetition, finds it taken.  So the work
at a place is bounded by the number of states, and this is also what a repetition means
whose rounds can be empty: a round that comes back to a place without a character goes no
further through parts that the place has seen.
-/

namespace TableLexer
namespace Pattern
namespace Automaton

/-- The states found at a place, the preferred ones first, and for each state the number of
the last place where it was found. -/
structure Found where
  order : Array Nat
  marks : Array Nat
deriving Repr

/-- The state at a number. -/
def state (a : Automaton) (q : Nat) : State :=
  a.states.getD q .accept

/--
Goes from the states on a stack to all that they lead to without a character, in order of
preference, through the questions that the place answers with yes.  Lists those that take a
character or accept.  The first number bounds the states taken from the stack, the other
one names the place.
-/
def close (a : Automaton) (before after : Option Char) (place : Nat) :
    Nat → List Nat → Found → Found
  | 0, _, found => found
  | _ + 1, [], found => found
  | n + 1, q :: stack, found =>
    if found.marks.getD q place = place then
      close a before after place n stack found
    else
      let marks := found.marks.setIfInBounds q place
      match a.state q with
      | .take .. | .accept =>
        close a before after place n stack ⟨found.order.push q, marks⟩
      | .fork x y => close a before after place n (x :: y :: stack) ⟨found.order, marks⟩
      | .ask l next =>
        close a before after place n
          (if l.holds before after then next :: stack else stack)
          ⟨found.order, marks⟩

/-- Finds one more state and all that it leads to.  A state is marked once and puts two
states on the stack at most, which bounds the states taken from it. -/
def find (a : Automaton) (before after : Option Char) (place : Nat)
    (found : Found) (q : Nat) : Found :=
  a.close before after place (2 * a.states.size + 2) [q] found

/-- The states that the listed ones lead to by the character, with the place behind it. -/
def step (a : Automaton) (c : Char) (after : Option Char) (place : Nat)
    (order marks : Array Nat) : Found :=
  order.foldl
    (fun found q =>
      match a.state q with
      | .take s next =>
        if s.contains c then a.find (some c) after place found next else found
      | .ask .. | .fork .. | .accept => found)
    ⟨#[], marks⟩

/-- The states preferred to the first one that accepts. -/
def preferred (a : Automaton) (order : Array Nat) : Array Nat :=
  order.takeWhile fun q => a.state q != .accept

/--
Follows the states over the text.  Where a listed state accepts, the best match so far ends
there, at `stop`, and the states behind it are given up.
-/
def follow (a : Automaton) (stop : Option Nat) (found : Found) (passed : Nat) :
    List Char → Option Nat
  | [] => if (a.preferred found.order).size < found.order.size then some passed else stop
  | c :: rest =>
    if found.order.isEmpty then
      stop
    else
      let order := a.preferred found.order
      let stop := if order.size < found.order.size then some passed else stop
      follow a stop (a.step c rest.head? (passed + 2) order found.marks) (passed + 1) rest

/-- The number of characters that the most preferred match takes from the head of a
text. -/
def take? (a : Automaton) (before : Option Char) (text : List Char) : Option Nat :=
  let fresh : Found := ⟨#[], Array.replicate a.states.size 0⟩
  a.follow none (a.find before text.head? 1 fresh a.start) 0 text

end Automaton
end Pattern
end TableLexer
