import TableLexer.Pattern.CharSet
import TableLexer.Pattern.Look

/-!
# Patterns

A pattern says which texts may stand at a place, and in which order of preference: of two
branches the first is preferred, a greedy repetition prefers one more round, and a lazy one
prefers to stop.  The order matters, because only the most preferred match is ever used.

Patterns are built by `ofSet`, `join`, `choose` and `repeated`, which keep them in a normal
form: neighbouring letters are one text, sequences and branches lean to the right, branches
of single characters are one class, and what all branches begin with stands before them
once.  Taking a common beginning out of the branches is part of the meaning: it moves the
choice between the branches behind the choices inside of what they share.
-/

namespace TableLexer

/-- How often a repetition goes round; without an upper bound, any number of times. -/
structure Bounds where
  least : Nat
  most : Option Nat
deriving DecidableEq, Repr

/-- A pattern over characters. -/
inductive Pattern where
  /-- The empty text. -/
  | empty
  /-- These characters, one or more. -/
  | text (cs : List Char)
  /-- One character of the set. -/
  | one (s : Pattern.CharSet)
  /-- A place of which something is asked. -/
  | look (l : Pattern.Look)
  /-- Rounds of the pattern. -/
  | rounds (p : Pattern) (bounds : Bounds) (greedy : Bool)
  /-- A numbered group. -/
  | group (index : Nat) (p : Pattern)
  /-- One pattern, then the other. -/
  | seq (p q : Pattern)
  /-- Either pattern, the first one preferred. -/
  | alt (p q : Pattern)
deriving DecidableEq, Repr

namespace Pattern

/-- The least number of characters that a match takes, unless some part can never match. -/
def minLength? : Pattern → Option Nat
  | empty | look _ => some 0
  | text cs => some cs.length
  | one s => if s.isEmpty then none else some 1
  | rounds p bounds _ => p.minLength?.map (· * bounds.least)
  | group _ p => p.minLength?
  | seq p q =>
    match p.minLength?, q.minLength? with
    | some m, some n => some (m + n)
    | _, _ => none
  | alt p q =>
    match p.minLength?, q.minLength? with
    | some m, some n => some (min m n)
    | _, _ => none

/-- Every match takes a character. -/
def takesSome (p : Pattern) : Bool :=
  p.minLength?.any (0 < ·)

/-- No match takes a character. -/
def takesNothing : Pattern → Bool
  | empty | look _ => true
  | text cs => cs.isEmpty
  | one _ => false
  | rounds p _ _ | group _ p => p.takesNothing
  | seq p q | alt p q => p.takesNothing && q.takesNothing

/-- The pattern begins with the question, so that it can match only where the answer is
yes. -/
def beginsWith (l : Look) : Pattern → Bool
  | look k => k == l
  | rounds p bounds _ => 0 < bounds.least && p.beginsWith l
  | group _ p => p.beginsWith l
  | seq p q => p.beginsWith l || p.takesNothing && q.beginsWith l
  | alt p q => p.beginsWith l && q.beginsWith l
  | empty | text _ | one _ => false

/-- The pattern ends with the question, so that its matches end only where the answer is
yes. -/
def endsWith (l : Look) : Pattern → Bool
  | look k => k == l
  | rounds p bounds _ => 0 < bounds.least && p.endsWith l
  | group _ p => p.endsWith l
  | seq p q => q.endsWith l || q.takesNothing && p.endsWith l
  | alt p q => p.endsWith l && q.endsWith l
  | empty | text _ | one _ => false

/-- The pattern can match at the start of the text only. -/
def isAnchored (p : Pattern) : Bool :=
  p.beginsWith .textStart

/-- One character of the set; a set of one character is a text. -/
def ofSet (s : CharSet) : Pattern :=
  match s.only? with
  | some c => text [c]
  | none => one s

/-- The parts of a sequence. -/
def parts : Pattern → List Pattern
  | empty => []
  | seq p q => p :: q.parts
  | p => [p]

/-- The branches of a choice. -/
def branches : Pattern → List Pattern
  | alt p q => p :: q.branches
  | p => [p]

/-- Parts with one more in front; two texts become one. -/
def joinPart (p : Pattern) (rest : List Pattern) : List Pattern :=
  match p, rest with
  | text a, text b :: rest => text (a ++ b) :: rest
  | p, rest => p :: rest

/-- The patterns one after the other. -/
def join (ps : List Pattern) : Pattern :=
  nest ((ps.flatMap parts).foldr joinPart [])
where
  /-- The parts as one sequence. -/
  nest : List Pattern → Pattern
    | [] => empty
    | [p] => p
    | p :: q :: rest => seq p (nest (q :: rest))

/-- The branches as one choice. -/
def nestBranches : List Pattern → Pattern
  | [] => one .none
  | [p] => p
  | p :: q :: rest => alt p (nestBranches (q :: rest))

/-- The character of a text of one character. -/
def letter? : Pattern → Option CharSet
  | text [c] => some (.single c)
  | _ => none

/-- The set of a class. -/
def set? : Pattern → Option CharSet
  | one s => some s
  | _ => none

/-- The longest list that both lists begin with. -/
def commonPrefix : List Pattern → List Pattern → List Pattern
  | p :: ps, q :: qs => if p = q then p :: commonPrefix ps qs else []
  | _, _ => []

/-- What all branches begin with, if each of them has two parts at least. -/
def sharedStart : List Pattern → List Pattern
  | [] => []
  | p :: rest =>
    if (p :: rest).all fun q => 1 < q.parts.length then
      rest.foldl (fun found q => commonPrefix found q.parts) p.parts
    else
      []

/--
A choice between branches, the earlier ones preferred.  Branches of one letter each, or of
one class each, become a class; what all branches begin with is taken out of them.  The
number bounds how often that can happen.
-/
def chooseWithin : Nat → List Pattern → Pattern
  | 0, ps => nestBranches ps
  | n + 1, ps =>
    match ps.flatMap branches with
    | [] => one .none
    | [p] => p
    | ps =>
      match ps.mapM letter? with
      | some sets => ofSet (.unions sets)
      | none =>
        match ps.mapM set? with
        | some sets => ofSet (.unions sets)
        | none =>
          match sharedStart ps with
          | [] => nestBranches ps
          | shared =>
            join (shared ++ [chooseWithin n (ps.map fun p =>
              join (p.parts.drop shared.length))])

/-- A choice between branches, the earlier ones preferred. -/
def choose (ps : List Pattern) : Pattern :=
  chooseWithin ((ps.flatMap branches).foldl (fun n p => n + p.parts.length) 1) ps

/--
Rounds of a pattern.  Where a round takes nothing, one is as good as many; no round at all
is the empty text, and exactly one is the pattern itself.
-/
def repeated (p : Pattern) (bounds : Bounds) (greedy : Bool) : Pattern :=
  let bounds :=
    if p.takesNothing then ⟨min bounds.least 1, some (min (bounds.most.getD 1) 1)⟩
    else bounds
  if bounds = ⟨0, some 0⟩ then
    empty
  else if bounds = ⟨1, some 1⟩ then
    p
  else
    rounds p bounds greedy

end Pattern

end TableLexer
