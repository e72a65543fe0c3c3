import TableLexer.Pattern.Escape

/-!
# Reading character classes

What stands between `[` and `]`: characters, ranges, escapes, named classes and nested
classes, joined by the operators `&&`, `--` and `~~`.  A `]` that comes first and a `-`
that comes first or last stand for themselves.  Together with its set, a class is given the
depth of its written form.
-/

namespace TableLexer
namespace Pattern

/-- The depth of parts that stand side by side: one part is no deeper for standing
there. -/
def depthOf : List Nat → Nat
  | [] => 0
  | [d] => d
  | depths => depths.foldl max 0 + 1

/-- One item of a class: a character, which may begin a range, or a set. -/
inductive ClassItem where
  | char (c : Char)
  | set (s : CharSet)
deriving DecidableEq, Repr

/-- Without Unicode only ASCII characters may be named. -/
def ClassItem.ofChar? (flags : Flags) (c : Char) : Option ClassItem :=
  if flags.unicode || c.toNat < 128 then some (.char c) else none

/-- The set of an item that begins no range. -/
def ClassItem.toSet : ClassItem → CharSet
  | char c => .single c
  | set s => s

/-- Reads one item at the head of the text. -/
def readClassItem (flags : Flags) : List Char → Option (ClassItem × List Char)
  | [] => none
  | '\\' :: rest =>
    match Escape.read flags rest with
    | some (.char c, rest) => (ClassItem.ofChar? flags c).map fun i => (i, rest)
    | some (.set s, rest) => some (.set s, rest)
    | some (.look _, _) | none => none
  | c :: rest => (ClassItem.ofChar? flags c).map fun i => (i, rest)

/-- The character behind a `-`, which decides whether that stands for itself; at most one
`#` is passed over there. -/
def behindDash? (flags : Flags) (cs : List Char) : Option Char :=
  if flags.spaced then
    match cs.dropWhile Text.isBlank with
    | '#' :: rest => (rest.dropWhile Text.isBlank).head?
    | rest => rest.head?
  else
    cs.head?

/-- Reads an item or a range of characters at the head of the text. -/
def readClassRange (flags : Flags) (cs : List Char) : Option (CharSet × List Char) :=
  match readClassItem flags cs with
  | none => none
  | some (item, rest) =>
    match flags.skip rest with
    | '-' :: more =>
      if behindDash? flags more = some ']' || behindDash? flags more = some '-' then
        some (item.toSet, '-' :: more)
      else
        match item, readClassItem flags (flags.skip more) with
        | .char c, some (.char d, rest) => if c ≤ d then some (.range c d, rest) else none
        | _, _ => none
    | rest => some (item.toSet, rest)

/-- The operators between the parts of a class. -/
inductive SetOp where
  | inter
  | diff
  | symDiff
deriving DecidableEq, Repr

/-- The result of an operator. -/
def SetOp.eval : SetOp → CharSet → CharSet → CharSet
  | inter, s, t => s.inter t
  | diff, s, t => s.diff t
  | symDiff, s, t => s.symDiff t

/-- The operator that the text begins with. -/
def setOp? : List Char → Option SetOp
  | '&' :: '&' :: _ => some .inter
  | '-' :: '-' :: _ => some .diff
  | '~' :: '~' :: _ => some .symDiff
  | _ => none

/-- A set that has been read, and the depth of its written form. -/
structure ReadSet where
  set : CharSet
  depth : Nat
deriving DecidableEq, Repr

/-- The part of a class read so far: what stands before the last operator, and the items
after it. -/
structure ClassPart where
  pending : Option (ReadSet × SetOp) := none
  items : List ReadSet := []
deriving Repr

namespace ClassPart

/-- The items after the last operator as one set. -/
def current (flags : Flags) (part : ClassPart) : ReadSet :=
  let items := part.items.reverse
  ⟨flags.apply (.unions (items.map ReadSet.set)), depthOf (items.map ReadSet.depth)⟩

/-- The value of all that has been read. -/
def value (flags : Flags) (part : ClassPart) : ReadSet :=
  let current := part.current flags
  match part.pending with
  | none => current
  | some (s, op) => ⟨op.eval s.set current.set, max s.depth current.depth + 1⟩

/-- A part of which these characters have been read. -/
def ofChars (cs : List Char) : ClassPart :=
  { items := cs.map fun c => ⟨.single c, 0⟩ }

/-- The part with one more item. -/
def push (part : ClassPart) (s : ReadSet) : ClassPart :=
  { part with items := s :: part.items }

end ClassPart

/-- Reads the beginning of a class, after its `[`: whether it is negated, and the items
that may come first only. -/
def readClassStart (flags : Flags) (cs : List Char) : Bool × List Char × List Char :=
  let (negated, cs) := match flags.skip cs with
    | '^' :: rest => (true, flags.skip rest)
    | cs => (false, cs)
  match flags.span (· == '-') cs with
  | ([], ']' :: rest) => (negated, [']'], rest)
  | (dashes, rest) => (negated, dashes, rest)

/-- Reads a class given by its name, after its `[`. -/
def readNamed (flags : Flags) : List Char → Option (Option CharSet × List Char)
  | ':' :: cs =>
    let (negated, cs) := match cs with
      | '^' :: rest => (true, rest)
      | cs => (false, cs)
    match CharSet.named? (String.ofList (cs.takeWhile (· != ':'))),
      cs.dropWhile (· != ':') with
    | some s, ':' :: ']' :: rest =>
      some (if negated then flags.negate? s else some s, rest)
    | _, _ => none
  | _ => none

/--
Reads the rest of a class up to and including its `]`.  The number bounds the steps; the
length of the text is enough, since every step takes a character.  `level` bounds the
nesting.
-/
def readClassRest :
    Nat → Nat → Flags → Bool → ClassPart → List Char → Option (ReadSet × List Char)
  | 0, _, _, _, _, _ => none
  | n + 1, level, flags, negated, part, cs =>
    match flags.skip cs with
    | [] => none
    | ']' :: rest =>
      let ⟨s, depth⟩ := part.value flags
      match if negated then flags.negate? s else some s with
      | some s => some (⟨s, depth + 1⟩, rest)
      | none => none
    | '[' :: rest =>
      match readNamed flags rest with
      | some (some s, rest) => readClassRest n level flags negated (part.push ⟨s, 0⟩) rest
      | some (none, _) => none
      | none =>
        match level with
        | 0 => none
        | level + 1 =>
          let (inverted, items, rest) := readClassStart flags rest
          match readClassRest n level flags inverted (.ofChars items) rest with
          | none => none
          | some (s, rest) => readClassRest n (level + 1) flags negated (part.push s) rest
    | cs =>
      match setOp? cs with
      | some op =>
        readClassRest n level flags negated
          { pending := some (part.value flags, op) } (cs.drop 2)
      | none =>
        match readClassRange flags cs with
        | none => none
        | some (s, rest) => readClassRest n level flags negated (part.push ⟨s, 0⟩) rest

/-- Reads a class whose `[` has been taken.  The numbers bound the steps and the
nesting. -/
def readClass (n level : Nat) (flags : Flags) (cs : List Char) :
    Option (ReadSet × List Char) :=
  let (negated, items, rest) := readClassStart flags cs
  readClassRest n level flags negated (.ofChars items) rest

end Pattern
end TableLexer
