import TableLexer.Text.Ranges

/-!
# Ranges of characters as ranges of bytes

The characters between two code points, written in UTF-8, are those byte strings whose
bytes lie, one by one, within the ranges of one of a few sequences.  The sequences come in
ascending order and none repeats a byte string of another.
-/

namespace TableLexer
namespace Text

/-- For each byte of a character, a closed range. -/
abbrev ByteSequence := List (Nat × Nat)

/-- The code points of the characters that take one, two, three and four bytes, without
surrogates; each with the number of its bytes after the first and what marks its first
byte. -/
def utf8Blocks : List (Nat × Nat × Nat × Nat) :=
  [(0, 0x7F, 0, 0), (0x80, 0x7FF, 1, 0xC0), (0x800, 0xD7FF, 2, 0xE0),
   (0xE000, 0xFFFF, 2, 0xE0), (0x10000, 0x10FFFF, 3, 0xF0)]

/-- Any byte after the first, as often as given. -/
def anyTail (n : Nat) : ByteSequence :=
  List.replicate n (0x80, 0xBF)

/--
The sequences for the numbers from `low` to `high`, written with `tail` bytes of six bits
after a first part that `mark` is added to.  Where the two numbers differ in the first
part, the first and the last value of that part are apart unless all tails follow them.
-/
def tailSequences : Nat → Nat → Nat → Nat → List ByteSequence
  | 0, mark, low, high => [[(mark + low, mark + high)]]
  | tail + 1, mark, low, high =>
    let size := 64 ^ (tail + 1)
    let a := low / size
    let b := high / size
    let put :=
      fun head (rest : List ByteSequence) => rest.map ((mark + head, mark + head) :: ·)
    if a = b then
      put a (tailSequences tail 0x80 (low % size) (high % size))
    else
      let fromStart := low % size = 0
      let toEnd := high % size = size - 1
      let first := if fromStart then []
        else put a (tailSequences tail 0x80 (low % size) (size - 1))
      let last := if toEnd then [] else put b (tailSequences tail 0x80 0 (high % size))
      let from' := if fromStart then a else a + 1
      let to' := if toEnd then b + 1 else b
      let middle :=
        if from' < to' then [(mark + from', mark + to' - 1) :: anyTail (tail + 1)] else []
      first ++ middle ++ last

/-- The sequences for the characters from `low` to `high`. -/
def rangeSequences (low high : Nat) : List ByteSequence :=
  utf8Blocks.flatMap fun (first, last, tail, mark) =>
    let low := max low first
    let high := min high last
    if low ≤ high then tailSequences tail mark low high else []

/-- The sequences for the characters of ascending ranges. -/
def CodeRanges.sequences (ranges : CodeRanges) : List ByteSequence :=
  ranges.flatMap fun r => rangeSequences r.1 r.2

/-- The length of what two sequences begin with alike. -/
def sharedLength : ByteSequence → ByteSequence → Nat
  | x :: xs, y :: ys => if x = y then sharedLength xs ys + 1 else 0
  | _, _ => 0

/-- The number of different beginnings of the sequences, which are sorted; the empty one is
not counted. -/
def countBeginnings (before : ByteSequence) : List ByteSequence → Nat
  | [] => 0
  | s :: rest => (s.length - sharedLength before s) + countBeginnings s rest

/-- What may follow each first range of the sequences, by first range. -/
def followers : List ByteSequence → List ((Nat × Nat) × List ByteSequence)
  | [] => []
  | [] :: rest => followers rest
  | (x :: xs) :: rest =>
    match followers rest with
    | (y, tails) :: more =>
      if x = y then (y, xs :: tails) :: more else (x, [xs]) :: (y, tails) :: more
    | [] => [(x, [xs])]

/-- The sets of sequences that can be left to read, the whole set first; nothing left is
not counted.  The number bounds the bytes read. -/
def remainders : Nat → List ByteSequence → List (List ByteSequence)
  | 0, _ => []
  | n + 1, sequences =>
    sequences ::
      ((followers sequences).filter fun f => f.2 != [[]]).flatMap fun f => remainders n f.2

end Text
end TableLexer
