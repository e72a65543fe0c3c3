/-!
# Ranges of code points

Character properties are given as lists of closed ranges of code points, and case maps as
lists of evenly spaced runs whose members all move by the same distance.  Membership and
look-up walk the list.
-/

namespace TableLexer
namespace Text

/-- Closed ranges of code points, each given by its first and its last member. -/
abbrev CodeRanges := List (Nat × Nat)

/-- The character lies in one of the ranges. -/
def CodeRanges.contains (ranges : CodeRanges) (c : Char) : Bool :=
  ranges.any fun r => r.1 ≤ c.toNat && c.toNat ≤ r.2

/-- Every `step`-th code point from `first` to `last` is sent `shift` places further. -/
structure CaseRun where
  first : Nat
  last : Nat
  step : Nat
  shift : Int
deriving DecidableEq, Repr

namespace CaseRun

/-- The code point is one of the run's members. -/
def covers (r : CaseRun) (n : Nat) : Bool :=
  r.first ≤ n && n ≤ r.last && (n - r.first) % r.step == 0

/-- Where the run sends the code point, if it is a member. -/
def image? (r : CaseRun) (n : Nat) : Option Nat :=
  if r.covers n then some (Int.toNat ((n : Int) + r.shift)) else none

/-- The run's members, each with the code point that it is sent to. -/
def pairs (r : CaseRun) : List (Nat × Nat) :=
  (List.range ((r.last - r.first) / r.step + 1)).map fun k =>
    let n := r.first + k * r.step
    (n, Int.toNat ((n : Int) + r.shift))

end CaseRun

end Text
end TableLexer
