import TableLexer.Pattern.Basic

/-!
# Plain patterns

The patterns in which nothing is repeated but single classes, and that offer few ways
through.  Nearly all rules of a lexer are plain.  A plain pattern can be matched by walking
over the text, because a class repeated takes a character in every round, and because few
ways and few ends of runs mean few attempts.
-/

namespace TableLexer
namespace Pattern

/-- A plain pattern. -/
inductive Plain where
  /-- The empty text. -/
  | empty
  /-- One character of the set. -/
  | one (s : CharSet)
  /-- Any number of characters of the set. -/
  | many (s : CharSet) (greedy : Bool)
  /-- A place of which something is asked. -/
  | look (l : Look)
  /-- One pattern, then the other. -/
  | seq (p q : Plain)
  /-- Either pattern, the first one preferred. -/
  | alt (p q : Plain)
deriving DecidableEq, Repr

namespace Plain

/-- The characters one after the other. -/
def ofText : List Char → Plain
  | [] => empty
  | [c] => one (.single c)
  | c :: d :: rest => seq (one (.single c)) (ofText (d :: rest))

/-- The pattern or nothing; greedy prefers the pattern. -/
def opt (p : Plain) (greedy : Bool) : Plain :=
  if greedy then alt p empty else alt empty p

/-- The number of parts of the pattern. -/
def size : Plain → Nat
  | empty | one _ | many .. | look _ => 1
  | seq p q | alt p q => p.size + q.size + 1

/-- The number of ways through the pattern, however long its runs are. -/
def ways : Plain → Nat
  | empty | one _ | many .. | look _ => 1
  | seq p q => p.ways * q.ways
  | alt p q => p.ways + q.ways

/-- The characters that a match can begin with, where `after` holds those that can follow
it. -/
def firsts (after : CharSet) : Plain → CharSet
  | empty | look _ => after
  | one s => s
  | many s _ => s.union after
  | seq p q => p.firsts (q.firsts after)
  | alt p q => (p.firsts after).union (q.firsts after)

/--
The largest number of loose runs on one way through the pattern.  A run is loose if what
follows it can begin with a character of the run, so that the run can end at more than one
place.
-/
def looseRuns (after : CharSet) : Plain → Nat
  | many s _ => if (s.inter after).isEmpty then 0 else 1
  | empty | one _ | look _ => 0
  | seq p q => p.looseRuns (q.firsts after) + q.looseRuns after
  | alt p q => max (p.looseRuns after) (q.looseRuns after)

/-- Walking takes few attempts and goes no deeper than a few calls for each part. -/
def isCheap (p : Plain) : Bool :=
  p.size ≤ 2000 && p.ways ≤ 100 && p.looseRuns .none ≤ 1

/-- Rounds of one set, without an upper bound or at most once. -/
def ofRounds? (s : CharSet) (bounds : Bounds) (greedy : Bool) : Option Plain :=
  match bounds.least, bounds.most with
  | 0, none => some (many s greedy)
  | 1, none => some (seq (one s) (many s greedy))
  | 0, some 1 => some (opt (one s) greedy)
  | _, _ => none

end Plain

/-- The set of a pattern that takes one character. -/
def oneOf? : Pattern → Option CharSet
  | text [c] => some (.single c)
  | one s => some s
  | _ => none

/-- The pattern as a plain one, if it repeats nothing but classes. -/
def plain? : Pattern → Option Plain
  | empty => some .empty
  | text cs => some (.ofText cs)
  | one s => some (.one s)
  | look l => some (.look l)
  | rounds p bounds greedy =>
    match p.oneOf? with
    | some s => Plain.ofRounds? s bounds greedy
    | none => if bounds = ⟨0, some 1⟩ then p.plain?.map (·.opt greedy) else none
  | group _ p => p.plain?
  | seq p q =>
    match p.plain?, q.plain? with
    | some p, some q => some (.seq p q)
    | _, _ => none
  | alt p q =>
    match p.plain?, q.plain? with
    | some p, some q => some (.alt p q)
    | _, _ => none

end Pattern
end TableLexer
