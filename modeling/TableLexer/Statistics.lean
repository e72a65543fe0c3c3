import TableLexer.Token

/-!
# Statistics

Counts over a finished sequence of tokens.  Kinds are counted in the order in which they
are first met; that order decides which of two equally frequent kinds is the dominant one,
and the order of the fields in JSON.
-/

namespace TableLexer

/-- The number of tokens of each kind, in the order in which the kinds are first met. -/
structure KindCounts where
  entries : List (Kind × Nat)
deriving DecidableEq, Repr

namespace KindCounts

/-- No tokens. -/
def empty : KindCounts := ⟨[]⟩

/-- Counts one more token of a kind in a list of counts. -/
def bump (kind : Kind) : List (Kind × Nat) → List (Kind × Nat)
  | [] => [(kind, 1)]
  | (k, n) :: rest => if k = kind then (k, n + 1) :: rest else (k, n) :: bump kind rest

/-- The counts with one more token of a kind. -/
def increment (c : KindCounts) (kind : Kind) : KindCounts :=
  ⟨bump kind c.entries⟩

/-- The counts of a sequence of kinds. -/
def ofKinds (kinds : List Kind) : KindCounts :=
  kinds.foldl increment empty

/-- The number of tokens of a kind. -/
def get (c : KindCounts) (kind : Kind) : Nat :=
  (c.entries.lookup kind).getD 0

/-- The number of different kinds. -/
def size (c : KindCounts) : Nat :=
  c.entries.length

/-- The counts in JSON, under the names of the kinds. -/
def toJson (c : KindCounts) : Json :=
  .ofFields (c.entries.map fun (kind, n) => (kind.name, .ofNat n))

/-- The counts as compact JSON text. -/
def render (c : KindCounts) : String :=
  c.toJson.compact

/-- The entry that is kept of two: the earlier one, unless the later one counts more. -/
def better (best : Option (Kind × Nat)) (entry : Kind × Nat) : Option (Kind × Nat) :=
  match best with
  | none => some entry
  | some (k, n) => if n < entry.2 then some entry else some (k, n)

/-- The most frequent kind with its count; of equally frequent kinds the one first met. -/
def dominant (c : KindCounts) : Option (Kind × Nat) :=
  c.entries.foldl better none

end KindCounts

/-- The number of lines of a source: one more than its line feeds. -/
def countLines (source : String) : Nat :=
  Text.newlines source.toList + 1

/-- What is counted over the tokens of a source. -/
structure Statistics where
  total : Nat
  counts : KindCounts
  dominant : Option (Kind × Nat)
  lines : Nat
deriving DecidableEq, Repr

namespace Statistics

/-- The statistics of tokens and the source they come from. -/
def ofTokens (tokens : List Token) (source : String) : Statistics :=
  let counts := KindCounts.ofKinds (tokens.map Token.kind)
  ⟨tokens.length, counts, counts.dominant, countLines source⟩

/-- The dominant kind for the reader. -/
def dominantSummary (s : Statistics) : String :=
  match s.dominant with
  | some (kind, n) => kind.name ++ " (" ++ toString n ++ " occurrences)"
  | none => " (0 occurrences)"

/-- The dominant kind in JSON. -/
def dominantJson : Option (Kind × Nat) → Json
  | none => .null
  | some (kind, n) => .ofFields [("kind", kind.toJson), ("count", .ofNat n)]

/-- The statistics in JSON. -/
def toJson (s : Statistics) : Json :=
  .ofFields
    [("total_count", .ofNat s.total), ("counts_by_kind", s.counts.toJson),
     ("dominant_kind", dominantJson s.dominant), ("line_count", .ofNat s.lines)]

end Statistics
end TableLexer
