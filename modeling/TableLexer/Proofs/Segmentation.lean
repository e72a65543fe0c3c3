import Mathlib.Data.List.Basic
import TableLexer.Proofs.Pattern.Reach
import TableLexer.Span

/-!
# Segmentations

A segmentation of a source is the list of spans that a table cuts it into.  It is
given by rules and not by the scan: either the first matching rule takes a text
that is not empty, or no rule matches and one character is passed over.

Every source has exactly one segmentation.  Its spans, joined, are the source; none
of them is empty; and each of them is decided by the rest of the source that it
stands at the head of, whatever stands before it.
-/

namespace TableLexer

namespace Span

def joined (spans : List Span) : List Char :=
  spans.flatMap Span.text

@[simp] theorem joined_nil :
    joined [] = [] := by
  rfl

@[simp] theorem joined_cons
    (s : Span) (spans : List Span) :
    joined (s :: spans) = s.text ++ joined spans := by
  rfl

@[simp] theorem joined_append
    (xs ys : List Span) :
    joined (xs ++ ys) = joined xs ++ joined ys := by
  simp [joined]

end Span

namespace Rule

theorem matchChars?_le
    {r : Rule} {input : List Char} {n : Nat}
    (h : r.matchChars? input = some n) :
    n ≤ input.length := by
  unfold matchChars? at h
  split at h
  · next o ho =>
      split at h
      · cases h
      · cases h
        exact Pattern.Matcher.search_stop_le ho
  · cases h

/-- A matched text is a beginning of the input, and not the empty one. -/
theorem matchText?_eq_some
    {r : Rule} {input text : List Char}
    (h : r.matchText? input = some text) :
    text ≠ [] ∧ ∃ rest, input = text ++ rest := by
  obtain ⟨n, hn, rfl⟩ := Option.map_eq_some_iff.1 h
  have hpos := Table.matchChars?_pos hn
  have hle := matchChars?_le hn
  refine ⟨?_, input.drop n, (List.take_append_drop n input).symm⟩
  intro hnil
  have hlen := congrArg List.length hnil
  rw [List.length_take, List.length_nil] at hlen
  omega

end Rule

namespace Table

/-- The first rule in order of preference that matches the head of the input with a
text that is not empty has this kind and takes this text. -/
def FirstMatch
    (t : Table)
    (input : List Char)
    (kind : Kind)
    (text : List Char) :
    Prop :=
  ∃ earlier r later,
    t.rules = earlier ++ r :: later ∧
    (∀ e ∈ earlier, e.matchText? input = none) ∧
    r.matchText? input = some text ∧
    r.kind = kind

theorem findMatch_eq_findSome?
    (t : Table)
    (input : List Char) :
    t.findMatch input
      =
    t.rules.findSome? fun r =>
      (r.matchText? input).map fun text => (r.kind, text) := by
  unfold findMatch matchHead?
  induction t.rules with
  | nil =>
      rfl
  | cons r rules ih =>
      rw [List.findSome?_cons, List.findSome?_cons, ← ih]
      unfold Rule.matchText?
      cases r.matchChars? input <;> rfl

/-- A table finds the match of the first rule that has one. -/
theorem findMatch_eq_some_iff
    {t : Table} {input : List Char}
    {kind : Kind} {text : List Char} :
    t.findMatch input = some (kind, text)
      ↔
    t.FirstMatch input kind text := by
  rw [findMatch_eq_findSome?, List.findSome?_eq_some_iff]
  constructor
  · rintro ⟨earlier, r, later, hrules, hr, hearlier⟩
    obtain ⟨_, htext, heq⟩ := Option.map_eq_some_iff.1 hr
    cases heq
    refine ⟨earlier, r, later, hrules, ?_, htext, rfl⟩
    intro e he
    exact Option.map_eq_none_iff.1 (hearlier e he)
  · rintro ⟨earlier, r, later, hrules, hearlier, htext, rfl⟩
    refine ⟨earlier, r, later, hrules, ?_, ?_⟩
    · rw [htext]
      rfl
    · intro e he
      rw [hearlier e he]
      rfl

theorem findMatch_eq_none_iff
    {t : Table} {input : List Char} :
    t.findMatch input = none
      ↔
    ∀ r ∈ t.rules, r.matchText? input = none := by
  rw [findMatch_eq_findSome?, List.findSome?_eq_none_iff]
  simp only [Option.map_eq_none_iff]

theorem findMatch_eq_some
    {t : Table} {input : List Char}
    {kind : Kind} {text : List Char}
    (h : t.findMatch input = some (kind, text)) :
    text ≠ [] ∧ ∃ rest, input = text ++ rest := by
  obtain ⟨_, _, _, _, _, htext, _⟩ := findMatch_eq_some_iff.1 h
  exact Rule.matchText?_eq_some htext

/-- The span at the head of a source holds what the table finds there. -/
theorem headSpan_of_findMatch
    {t : Table} {c : Char} {rest : List Char}
    {kind : Kind} {text : List Char}
    (h : t.findMatch (c :: rest) = some (kind, text)) :
    t.headSpan c rest = (⟨some kind, text⟩, text.length) := by
  obtain ⟨⟨k, n⟩, hn, heq⟩ := Option.map_eq_some_iff.1 h
  have hle : n ≤ (c :: rest).length := by
    obtain ⟨r, _, hr⟩ := List.exists_of_findSome?_eq_some hn
    obtain ⟨m, hm, hmn⟩ := Option.map_eq_some_iff.1 hr
    cases hmn
    exact Rule.matchChars?_le hm
  cases heq
  unfold headSpan
  rw [hn]
  simp only [List.length_take, Nat.min_eq_left hle]

theorem headSpan_of_findMatch_none
    {t : Table} {c : Char} {rest : List Char}
    (h : t.findMatch (c :: rest) = none) :
    t.headSpan c rest = (⟨none, [c]⟩, 1) := by
  have hn := Option.map_eq_none_iff.1 h
  unfold headSpan
  rw [hn]

/-- The spans that a table cuts a source into, from left to right. -/
inductive Segmentation (t : Table) : List Char → List Span → Prop
  | nil :
      Segmentation t [] []
  | taken
      {kind : Kind} {text rest : List Char} {spans : List Span} :
      t.findMatch (text ++ rest) = some (kind, text) →
      Segmentation t rest spans →
      Segmentation t (text ++ rest) (⟨some kind, text⟩ :: spans)
  | skipped
      {c : Char} {rest : List Char} {spans : List Span} :
      t.findMatch (c :: rest) = none →
      Segmentation t rest spans →
      Segmentation t (c :: rest) (⟨none, [c]⟩ :: spans)

namespace Segmentation

variable {t : Table} {source : List Char} {spans : List Span}

theorem joined_eq
    (h : t.Segmentation source spans) :
    Span.joined spans = source := by
  induction h with
  | nil =>
      rfl
  | taken _ _ ih =>
      simp [ih]
  | skipped _ _ ih =>
      simp [ih]

theorem text_ne_nil
    (h : t.Segmentation source spans) :
    ∀ s ∈ spans, s.text ≠ [] := by
  induction h with
  | nil =>
      intro s hs
      cases hs
  | taken hfind _ ih =>
      intro s hs
      rcases List.mem_cons.1 hs with rfl | hs
      · exact (findMatch_eq_some hfind).1
      · exact ih s hs
  | skipped _ _ ih =>
      intro s hs
      rcases List.mem_cons.1 hs with rfl | hs
      · exact List.cons_ne_nil _ _
      · exact ih s hs

/-- What follows the first spans is the segmentation of the rest of the source. -/
theorem of_append
    {before after : List Span}
    (h : t.Segmentation source (before ++ after)) :
    t.Segmentation (Span.joined after) after := by
  induction before generalizing source with
  | nil =>
      rw [List.nil_append] at h
      rw [h.joined_eq]
      exact h
  | cons s before ih =>
      cases h with
      | taken _ hrest =>
          exact ih hrest
      | skipped _ hrest =>
          exact ih hrest

/-- The last character of some spans is the last one of the last span. -/
theorem exists_last
    {before after : List Span} {c : Char}
    (h : t.Segmentation source (before ++ after))
    (hlast : (Span.joined before).getLast? = some c) :
    ∃ first s, before = first ++ [s] ∧ s.text.getLast? = some c := by
  rcases List.eq_nil_or_concat' before with rfl | ⟨first, s, rfl⟩
  · cases hlast
  · have hs : s.text ≠ [] := h.text_ne_nil s (by simp)
    refine ⟨first, s, rfl, ?_⟩
    simpa [List.getLast?_append, List.getLast?_eq_some_getLast hs] using hlast

theorem exists_spans
    (t : Table)
    (source : List Char) :
    ∃ spans, t.Segmentation source spans := by
  match source with
  | [] =>
      exact ⟨[], nil⟩
  | c :: rest =>
      cases hfind : t.findMatch (c :: rest) with
      | none =>
          obtain ⟨spans, hspans⟩ := exists_spans t rest
          exact ⟨_, skipped hfind hspans⟩
      | some found =>
          obtain ⟨kind, text⟩ := found
          obtain ⟨hne, more, hmore⟩ := findMatch_eq_some hfind
          -- A match takes a character at least, so its rest is shorter.
          have hshort : more.length < rest.length + 1 := by
            have hlen := congrArg List.length hmore
            have hpos := List.length_pos_of_ne_nil hne
            rw [List.length_cons, List.length_append] at hlen
            omega
          obtain ⟨spans, hspans⟩ := exists_spans t more
          rw [hmore] at hfind ⊢
          exact ⟨_, taken hfind hspans⟩
termination_by source.length

theorem unique
    {others : List Span}
    (h : t.Segmentation source spans)
    (h' : t.Segmentation source others) :
    others = spans := by
  induction h generalizing others with
  | nil =>
      generalize hsource : ([] : List Char) = source at h'
      cases h' with
      | nil =>
          rfl
      | taken hfind _ =>
          have hne := (findMatch_eq_some hfind).1
          exact absurd (List.append_eq_nil_iff.1 hsource.symm).1 hne
      | skipped =>
          cases hsource
  | @taken kind text rest spans hfind _ ih =>
      generalize hsource : text ++ rest = source at h'
      cases h' with
      | nil =>
          have hne := (findMatch_eq_some hfind).1
          exact absurd (List.append_eq_nil_iff.1 hsource).1 hne
      | taken hfind' hrest =>
          rw [hsource, hfind'] at hfind
          cases hfind
          rw [List.append_cancel_left hsource] at ih
          rw [ih hrest]
      | skipped hnone _ =>
          rw [hsource, hnone] at hfind
          cases hfind
  | @skipped c rest spans hnone _ ih =>
      generalize hsource : c :: rest = source at h'
      cases h' with
      | nil =>
          cases hsource
      | taken hfind _ =>
          rw [hsource, hfind] at hnone
          cases hnone
      | skipped _ hrest =>
          cases hsource
          rw [ih hrest]

end Segmentation

/-- The span is what the table makes of the head of the input: the text of the first
rule that matches, or the next character if no rule does. -/
def Decides
    (t : Table)
    (input : List Char)
    (s : Span) :
    Prop :=
  match s.kind with
  | some kind => t.FirstMatch input kind s.text
  | none => (∀ r ∈ t.rules, r.matchText? input = none) ∧ s.text = input.take 1

/-- Each span is what the table finds in the rest of the source that it stands at the
head of. -/
theorem Segmentation.findMatch_eq
    {t : Table} {source : List Char}
    {before after : List Span} {s : Span}
    (h : t.Segmentation source (before ++ s :: after)) :
    t.findMatch (Span.joined (s :: after)) = s.kind.map fun kind => (kind, s.text) := by
  have hrest := h.of_append
  generalize Span.joined (s :: after) = input at hrest
  cases hrest with
  | taken hfind _ =>
      exact hfind
  | skipped hnone _ =>
      exact hnone

/-- Each span is decided by the rest of the source that it stands at the head of. -/
theorem Segmentation.decides
    {t : Table} {source : List Char}
    {before after : List Span} {s : Span}
    (h : t.Segmentation source (before ++ s :: after)) :
    t.Decides (Span.joined (s :: after)) s := by
  have hrest := h.of_append
  generalize Span.joined (s :: after) = input at hrest
  cases hrest with
  | taken hfind _ =>
      exact findMatch_eq_some_iff.1 hfind
  | skipped hnone _ =>
      exact ⟨findMatch_eq_none_iff.1 hnone, rfl⟩

end Table
end TableLexer
