import TableLexer.Table.Basic

/-!
# Spans

A table cuts a source into spans from left to right.  A span is the text that the first
matching rule takes, with the rule's kind, or a single character that no rule takes.  No
span is empty, so that the rest of a source behind its first span is shorter than the
source.
-/

namespace TableLexer

/-- A piece of a source: a text with its kind, or a skipped character. -/
structure Span where
  /-- The kind of the rule that took the text, or nothing for a skipped character. -/
  kind : Option Kind
  text : List Char
deriving DecidableEq, Repr

namespace Span

/-- The span only moves the line count on. -/
def isFiltered (s : Span) : Bool :=
  s.kind.any Kind.isFiltered

/-- The span becomes a token. -/
def isEmitted (s : Span) : Bool :=
  s.kind.any fun k => !k.isFiltered

/-- No rule took the span. -/
def isSkipped (s : Span) : Bool :=
  s.kind.isNone

/-- The number of bytes of the span. -/
def bytes (s : Span) : Nat :=
  Text.byteCount s.text

end Span

namespace Table

/-- The span at the head of a source and the number of characters it takes. -/
def headSpan (t : Table) (c : Char) (rest : List Char) : Span × Nat :=
  match t.matchHead? (c :: rest) with
  | some (kind, n) => (⟨some kind, (c :: rest).take n⟩, n)
  | none => (⟨none, [c]⟩, 1)

theorem matchChars?_pos {r : Rule} {input : List Char} {n : Nat}
    (h : r.matchChars? input = some n) : 0 < n := by
  unfold Rule.matchChars? at h
  split at h
  · split at h
    · simp at h
    · simp only [Option.some.injEq] at h
      omega
  · simp at h

theorem matchHead?_pos {t : Table} {input : List Char} {k : Kind} {n : Nat}
    (h : t.matchHead? input = some (k, n)) : 0 < n := by
  unfold matchHead? at h
  obtain ⟨r, _, hr⟩ := List.exists_of_findSome?_eq_some h
  obtain ⟨m, hm, heq⟩ := Option.map_eq_some_iff.1 hr
  cases heq
  exact matchChars?_pos hm

theorem headSpan_pos (t : Table) (c : Char) (rest : List Char) :
    0 < (t.headSpan c rest).2 := by
  unfold headSpan
  split
  · next h => exact matchHead?_pos h
  · exact Nat.one_pos

end Table
end TableLexer
