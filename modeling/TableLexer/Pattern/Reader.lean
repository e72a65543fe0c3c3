import TableLexer.Pattern.Basic
import TableLexer.Pattern.ClassReader

/-!
# Reading patterns

The written form of a pattern: branches between `|`, items one after the other, and
repetitions behind an item.  Groups may carry a name or flags; flags given alone hold to
the end of the group that they stand in, its later branches included.  What has no meaning
is refused: look-around, back-references, unknown escapes, properties that the given tables
do not know, a repetition with nothing before it, a range or a bound that goes backwards,
and brackets that do not close.  So is a text that nests too deep.
-/

namespace TableLexer
namespace Pattern

/-- A pattern that has been read, and the depth of its written form. -/
structure ReadPattern where
  pattern : Pattern
  depth : Nat
deriving Repr

/-- How deep a written form may nest. -/
def maxDepth : Nat := 250

/-- What may stand behind an opening parenthesis. -/
inductive GroupStart where
  /-- Flags for the rest of the enclosing group. -/
  | flags (flags : Flags)
  /-- A group without a number, read under its flags. -/
  | plain (flags : Flags)
  /-- A numbered group, and its name if it has one. -/
  | numbered (name : Option (List Char))

/--
Reads flag letters up to `)` or `:`.  `seen` holds the letters so far; a letter may be
given once, and a letter has to follow the `-` that clears.
-/
def readFlags (flags : Flags) (seen : List Char) (value : Bool) :
    List Char → Option (GroupStart × List Char)
  | [] => none
  | ')' :: rest =>
    if seen.isEmpty || seen.head? == some '-' then none else some (.flags flags, rest)
  | ':' :: rest =>
    if seen.head? == some '-' then none else some (.plain flags, rest)
  | c :: rest =>
    if seen.contains c then
      none
    else if c = '-' then
      readFlags flags (c :: seen) false rest
    else
      match flags.set? value c with
      | some f => readFlags f (c :: seen) value rest
      | none => none

/-- The character may begin the name of a group. -/
def isNameStart (c : Char) : Bool :=
  c == '_' || Text.isAlphabetic c

/-- The character may stand in the name of a group. -/
def isNameChar (c : Char) : Bool :=
  c == '_' || c == '.' || c == '[' || c == ']' || Text.isAlphanumeric c

/-- Reads the name of a group and the `>` behind it. -/
def readName (cs : List Char) : Option (GroupStart × List Char) :=
  let name := cs.takeWhile isNameChar
  match name, cs.dropWhile isNameChar with
  | first :: _, '>' :: rest =>
    if isNameStart first then some (.numbered (some name), rest) else none
  | _, _ => none

/-- Reads what follows an opening parenthesis. -/
def readGroupStart (flags : Flags) (cs : List Char) : Option (GroupStart × List Char) :=
  match flags.skip cs with
  | '?' :: 'P' :: '<' :: rest => readName rest
  | '?' :: '<' :: rest => readName rest
  | '?' :: rest => readFlags flags [] true rest
  | cs => some (.numbered none, cs)

/-- Reads one item that is neither a group nor a repetition.  The number bounds the
steps. -/
def readItem (n : Nat) (flags : Flags) : List Char → Option (ReadPattern × List Char)
  | [] => none
  | '\\' :: rest =>
    match Escape.read flags rest with
    | some (.char c, rest) => some (⟨ofSet (flags.apply (.single c)), 0⟩, rest)
    | some (.set s, rest) => some (⟨ofSet s, 0⟩, rest)
    | some (.look l, rest) => some (⟨look l, 0⟩, rest)
    | none => none
  | '[' :: rest =>
    (readClass n maxDepth flags rest).map fun (s, rest) => (⟨ofSet s.set, s.depth⟩, rest)
  | '^' :: rest => some (⟨look flags.lineStart, 0⟩, rest)
  | '$' :: rest => some (⟨look flags.lineEnd, 0⟩, rest)
  | '.' :: rest => flags.dot?.map fun s => (⟨one s, 0⟩, rest)
  | c :: rest => some (⟨ofSet (flags.apply (.single c)), 0⟩, rest)

/-- The largest bound of a repetition. -/
def maxBound : Nat := 4294967295

/-- Reads a bound: digits, with blanks around them. -/
def readBound (flags : Flags) (cs : List Char) : Option (Nat × List Char) :=
  let (digits, rest) := flags.span Char.isDigit (cs.dropWhile Text.isBlank)
  let n := Text.decimalValue digits
  if digits.isEmpty || n > maxBound then none
  else some (n, flags.skip (rest.dropWhile Text.isBlank))

/-- Reads the bounds of a counted repetition, whose opening brace has been taken. -/
def readBounds (flags : Flags) (cs : List Char) : Option (Bounds × List Char) :=
  match readBound flags cs with
  | none => none
  | some (least, '\x7d' :: rest) => some (⟨least, some least⟩, rest)
  | some (least, ',' :: rest) =>
    match flags.skip rest with
    | '\x7d' :: rest => some (⟨least, none⟩, rest)
    | rest =>
      match readBound flags rest with
      | some (most, '\x7d' :: rest) =>
        if least ≤ most then some (⟨least, some most⟩, rest) else none
      | _ => none
  | some _ => none

/-- Whether the repetition just read is greedy, and what follows its mark. -/
def readGreed (flags : Flags) : List Char → Bool × List Char
  | '?' :: rest => (flags.lazyFirst, rest)
  | cs => (!flags.lazyFirst, cs)

/-- Reads the bounds at the head of the text and whether the repetition is greedy, if a
repetition stands there at all. -/
def readRounds (flags : Flags) : List Char → Option (Option (Bounds × Bool × List Char))
  | '*' :: rest => some (some (⟨0, none⟩, readGreed flags rest))
  | '+' :: rest => some (some (⟨1, none⟩, readGreed flags rest))
  | '?' :: rest => some (some (⟨0, some 1⟩, readGreed flags rest))
  | '\x7b' :: rest =>
    (readBounds flags rest).map fun (bounds, rest) =>
      some (bounds, readGreed flags (flags.skip rest))
  | _ => some none

/-- Reads the repetitions behind an item; one may follow another.  The number bounds
them. -/
def readRepeats : Nat → Flags → ReadPattern → List Char → Option (ReadPattern × List Char)
  | 0, _, p, cs => some (p, cs)
  | n + 1, flags, p, cs =>
    let cs := flags.skip cs
    match readRounds flags cs with
    | none => none
    | some none => some (p, cs)
    | some (some (bounds, greedy, rest)) =>
      readRepeats n flags ⟨p.pattern.repeated bounds greedy, p.depth + 1⟩ rest

/-- The groups read so far: how many are numbered, and the names in use. -/
structure Groups where
  count : Nat := 0
  names : List (List Char) := []
deriving Repr

/-- One more numbered group; a name may be given once. -/
def Groups.add? (groups : Groups) : Option (List Char) → Option Groups
  | none => some { groups with count := groups.count + 1 }
  | some name =>
    if groups.names.contains name then none
    else some ⟨groups.count + 1, name :: groups.names⟩

/-- The branches and the items of a group read so far, the newest first. -/
structure GroupPart where
  branches : List ReadPattern := []
  items : List ReadPattern := []
deriving Repr

namespace GroupPart

/-- The items as one branch. -/
def branch (part : GroupPart) : ReadPattern :=
  let items := part.items.reverse
  ⟨join (items.map ReadPattern.pattern), depthOf (items.map ReadPattern.depth)⟩

/-- The group as a pattern. -/
def value (part : GroupPart) : ReadPattern :=
  match part.branches with
  | [] => part.branch
  | branches =>
    let branches := (part.branch :: branches).reverse
    ⟨choose (branches.map ReadPattern.pattern), depthOf (branches.map ReadPattern.depth)⟩

/-- The part with its items closed as one branch. -/
def nextBranch (part : GroupPart) : GroupPart :=
  ⟨part.branch :: part.branches, []⟩

/-- The part with one more item. -/
def push (part : GroupPart) (p : ReadPattern) : GroupPart :=
  { part with items := p :: part.items }

end GroupPart

/-- A group that has been read, all groups so far, and the text that follows. -/
structure GroupRead where
  value : ReadPattern
  groups : Groups
  rest : List Char
deriving Repr

/--
Reads a group up to the parenthesis that closes it, which is not taken, or to the end of
the text.  The first number bounds the steps; the length of the text is enough, since every
step takes a character.  The second bounds the nesting.
-/
def readGroup : Nat → Nat → Flags → Groups → GroupPart → List Char → Option GroupRead
  | 0, _, _, groups, part, cs => if cs.isEmpty then some ⟨part.value, groups, cs⟩ else none
  | n + 1, level, flags, groups, part, cs =>
    match flags.skip cs with
    | [] => some ⟨part.value, groups, []⟩
    | ')' :: rest => some ⟨part.value, groups, ')' :: rest⟩
    | '|' :: rest => readGroup n level flags groups part.nextBranch rest
    | '*' :: _ | '+' :: _ | '?' :: _ | '\x7b' :: _ => none
    | '(' :: rest =>
      match level, readGroupStart flags rest with
      | 0, _ | _, none => none
      | level + 1, some (.flags flags, rest) =>
        readGroup n (level + 1) flags groups (part.push ⟨empty, 0⟩) rest
      | level + 1, some (.plain inner, rest) =>
        match readGroup n level inner groups {} rest with
        | some ⟨p, groups, ')' :: rest⟩ =>
          match readRepeats n flags ⟨p.pattern, p.depth + 1⟩ rest with
          | none => none
          | some (q, rest) => readGroup n (level + 1) flags groups (part.push q) rest
        | _ => none
      | level + 1, some (.numbered name, rest) =>
        match groups.add? name with
        | none => none
        | some groups =>
          match readGroup n level flags groups {} rest with
          | some ⟨p, later, ')' :: rest⟩ =>
            match readRepeats n flags ⟨group groups.count p.pattern, p.depth + 1⟩ rest with
            | none => none
            | some (q, rest) => readGroup n (level + 1) flags later (part.push q) rest
          | _ => none
    | cs =>
      match readItem n flags cs with
      | none => none
      | some (p, rest) =>
        match readRepeats n flags p rest with
        | none => none
        | some (q, rest) => readGroup n level flags groups (part.push q) rest

/-- Reads a whole text as a pattern. -/
def read? (cs : List Char) (properties : PropertyClasses := .held) : Option Pattern :=
  match readGroup (cs.length + 1) maxDepth { properties } {} {} cs with
  | some ⟨p, _, []⟩ => if p.depth ≤ maxDepth then some p.pattern else none
  | _ => none

/--
Reads the text of a rule.  The text is put into a group behind the start of the text, so
that the rule looks for its match where the text begins.  The group is one of the written
form: a text that closes it early leaves the rest of itself outside.
-/
def readRule? (cs : List Char) (properties : PropertyClasses := .held) : Option Pattern :=
  read? ("^(?:".toList ++ cs ++ [')']) properties

end Pattern
end TableLexer
