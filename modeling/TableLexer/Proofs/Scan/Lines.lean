import Mathlib.Data.List.Forall2
import TableLexer.Proofs.Scan.Tokens
import TableLexer.Proofs.Table.CatchAll
import TableLexer.Statistics

/-!
# The lines of a scan

The line of a token is one more than the line feeds in the spans before it that
count: the filtered ones always, the emitted ones only if the settings say so.  When
emitted spans count and no character is skipped, every span counts, so the line is
one more than the line feeds in the source before the token.  Lines stop at the
largest line number.

Counting more spans gives larger lines (`lineAfter_mono`); counting on gives larger
lines (`lineAfter_le_append`); no line exceeds the number of lines of the source.
-/

namespace TableLexer

namespace Span

/-- Spans that all pass a weaker test hold no fewer line feeds. -/
theorem newlines_filter_le
    {p q : Span → Bool}
    (h : ∀ s, p s = true → q s = true)
    (spans : List Span) :
    Text.newlines (joined (spans.filter p)) ≤ Text.newlines (joined (spans.filter q)) := by
  induction spans with
  | nil =>
      exact Nat.le_refl _
  | cons s spans ih =>
      by_cases hp : p s = true
      · rw [List.filter_cons_of_pos hp, List.filter_cons_of_pos (h s hp)]
        simp only [joined_cons, Text.newlines_append]
        omega
      · rw [List.filter_cons_of_neg hp]
        by_cases hq : q s = true
        · rw [List.filter_cons_of_pos hq, joined_cons, Text.newlines_append]
          omega
        · rw [List.filter_cons_of_neg hq]
          exact ih

theorem newlines_filter_le_joined
    (p : Span → Bool)
    (spans : List Span) :
    Text.newlines (joined (spans.filter p)) ≤ Text.newlines (joined spans) := by
  have hle := newlines_filter_le (p := p) (q := fun _ => true) (fun _ _ => rfl) spans
  rwa [List.filter_true] at hle

section Lines

variable (settings : ScanSettings) (before after : List Span)

theorem one_le_lineAfter :
    1 ≤ lineAfter settings before := by
  unfold lineAfter maxLine
  omega

theorem lineAfter_le_append :
    lineAfter settings before ≤ lineAfter settings (before ++ after) := by
  simp only [lineAfter, List.filter_append, joined_append, Text.newlines_append]
  omega

theorem lineAfter_le_newlines :
    lineAfter settings before ≤ Text.newlines (joined before) + 1 := by
  have hle := newlines_filter_le_joined (countsLines settings) before
  unfold lineAfter
  omega

/-- Counting the line feeds of emitted spans too gives no smaller line. -/
theorem lineAfter_mono
    (log log' : Bool) :
    lineAfter ⟨false, log⟩ before ≤ lineAfter ⟨true, log'⟩ before := by
  have hle :=
    newlines_filter_le
      (p := countsLines ⟨false, log⟩)
      (q := countsLines ⟨true, log'⟩)
      (fun s hs => by simp_all [countsLines])
      before
  unfold lineAfter
  omega

end Lines

theorem lineAfter_quiet
    (log : Bool)
    (before : List Span) :
    lineAfter ⟨false, log⟩ before
      =
    min (1 + Text.newlines (joined (before.filter isFiltered))) maxLine := by
  have hcounts : countsLines ⟨false, log⟩ = isFiltered := by
    funext s
    simp [countsLines]
  rw [lineAfter, hcounts]

theorem lineAfter_loud
    (log : Bool)
    (before : List Span) :
    lineAfter ⟨true, log⟩ before
      =
    min (1 + Text.newlines (joined (before.filter fun s => s.isFiltered || s.isEmitted)))
      maxLine := by
  have hcounts : countsLines ⟨true, log⟩ = fun s => s.isFiltered || s.isEmitted := by
    funext s
    simp [countsLines]
  rw [lineAfter, hcounts]

theorem counts_of_not_skipped
    {s : Span}
    (h : ¬ s.isSkipped = true) :
    (s.isFiltered || s.isEmitted) = true := by
  obtain ⟨kind, text⟩ := s
  cases kind with
  | none =>
      exact absurd rfl h
  | some kind =>
      cases hkind : kind.isFiltered <;> simp [isFiltered, isEmitted, hkind]

theorem lineAfter_loud_of_not_skipped
    (log : Bool)
    {before : List Span}
    (h : ∀ s ∈ before, ¬ s.isSkipped = true) :
    lineAfter ⟨true, log⟩ before = min (1 + Text.newlines (joined before)) maxLine := by
  have hall :
      before.filter (fun s => s.isFiltered || s.isEmitted) = before :=
    List.filter_eq_self.2 fun s hs => counts_of_not_skipped (h s hs)
  rw [lineAfter_loud, hall]

theorem lines_ascend
    (settings : ScanSettings)
    (spans : List Span) :
    (tokens settings spans).Pairwise fun a b => a.line ≤ b.line := by
  unfold tokens
  rw [List.pairwise_filterMap]
  refine (pairwise_contexts [] spans).imp ?_
  rintro ⟨before, s⟩ ⟨context, x⟩ ⟨between, hcontext⟩ a ha b hb
  obtain ⟨_, _, _, hline⟩ := token?_eq_some_iff.1 ha
  obtain ⟨_, _, _, hline'⟩ := token?_eq_some_iff.1 hb
  simp only at hcontext
  rw [hline, hline', hcontext]
  exact lineAfter_le_append settings before (s :: between)

/-- The two tokens are the same piece of a source, and the first one's line is not
larger. -/
def SamePiece (a b : Token) : Prop :=
  a.kind = b.kind ∧ a.value = b.value ∧ a.position = b.position ∧ a.line ≤ b.line

/-- Whether emitted spans count for lines changes nothing about tokens but lines. -/
theorem tokens_samePiece
    (log log' : Bool)
    (spans : List Span) :
    List.Forall₂ SamePiece (tokens ⟨false, log⟩ spans) (tokens ⟨true, log'⟩ spans) := by
  unfold tokens
  induction contexts [] spans with
  | nil =>
      exact List.Forall₂.nil
  | cons context rest ih =>
      obtain ⟨before, kind, text⟩ := context
      cases kind with
      | none =>
          simpa [token?] using ih
      | some kind =>
          cases hkind : kind.isFiltered with
          | true =>
              simpa [token?, hkind] using ih
          | false =>
              have hline := lineAfter_mono before log log'
              simpa [token?, hkind, SamePiece, hline] using ih

end Span

namespace Table

variable {t : Table} {source : String} {spans : List Span}

theorem Segmentation.line_le_countLines
    {settings : ScanSettings} {k : Token}
    (h : t.Segmentation source.toList spans)
    (hk : k ∈ Span.tokens settings spans) :
    k.line ≤ countLines source := by
  obtain ⟨before, after, rfl, _, _, hline⟩ := Span.mem_tokens_iff.1 hk
  have hle := Span.lineAfter_le_newlines settings before
  have hjoined := congrArg Text.newlines h.joined_eq
  rw [Span.joined_append, Text.newlines_append] at hjoined
  unfold countLines
  omega

theorem not_skipped_of_metrics
    (h : (ScanMetrics.ofSpans spans).skipped = 0) :
    ∀ s ∈ spans, ¬ s.isSkipped = true :=
  List.countP_eq_zero.1 h

theorem Segmentation.skipped_builtin
    {l : Language} {text : List Char}
    (h : (builtin l).Segmentation text spans) :
    (ScanMetrics.ofSpans spans).skipped = 0 :=
  (ofSpans_of_not_skipped (h.not_skipped_of_covers (covers_builtin l))).1

/-- If no character is skipped, a token stands on the line that its place in the source
is on. -/
theorem Segmentation.line_of_not_skipped
    {log : Bool} {k : Token}
    (h : t.Segmentation source.toList spans)
    (hnone : ∀ s ∈ spans, ¬ s.isSkipped = true)
    (hk : k ∈ Span.tokens ⟨true, log⟩ spans) :
    ∃ before after : String,
      source = before ++ k.value ++ after ∧
      before.utf8ByteSize = k.position ∧
      k.line = min (1 + Text.newlines before.toList) maxLine := by
  obtain ⟨before, after, rfl, _, hposition, hline⟩ := Span.mem_tokens_iff.1 hk
  obtain ⟨hsource, hbytes⟩ := h.source_eq
  rw [String.ofList_toList] at hsource
  refine ⟨_, _, hsource, hbytes.trans hposition.symm, ?_⟩
  have hbefore : ∀ s ∈ before, ¬ s.isSkipped = true := by
    intro s hs
    exact hnone s (List.mem_append_left _ hs)
  rw [hline, Span.lineAfter_loud_of_not_skipped log hbefore, String.toList_ofList]

/--
The lines of a scan are exact in both modes.  If only filtered spans count, the line
of a token is one more than the line feeds of those before it; if emitted spans count
too, of both.  In the second mode a scan that skips nothing, as those of the built-in
tables do, gives every token the line on which it stands in the source, and ends on
the last line.  In both modes lines start at one, never decrease and never exceed the
number of lines; the two modes differ in lines only, and the first gives no larger one.
-/
theorem scan_lines_exact
    (t : Table)
    (source : String)
    (log log' : Bool) :
    let quiet := t.scan ⟨false, log⟩ source
    let loud := t.scan ⟨true, log'⟩ source
    (∃ spans, t.Segmentation source.toList spans ∧
      (∀ k ∈ quiet.tokens, ∃ before after,
        spans = before ++ ⟨some k.kind, k.value.toList⟩ :: after ∧
        k.position = Span.offsetAfter before ∧
        k.line
          = min (1 + Text.newlines (Span.joined (before.filter Span.isFiltered)))
              maxLine) ∧
      (∀ k ∈ loud.tokens, ∃ before after,
        spans = before ++ ⟨some k.kind, k.value.toList⟩ :: after ∧
        k.position = Span.offsetAfter before ∧
        k.line
          = min (1 + Text.newlines (Span.joined
              (before.filter fun s => s.isFiltered || s.isEmitted))) maxLine)) ∧
    (loud.metrics.skipped = 0 →
      (∀ k ∈ loud.tokens, ∃ before after : String,
        source = before ++ k.value ++ after ∧
        before.utf8ByteSize = k.position ∧
        k.line = min (1 + Text.newlines before.toList) maxLine) ∧
      loud.line = min (countLines source) maxLine) ∧
    (∀ l, t = builtin l → quiet.metrics.skipped = 0 ∧ loud.metrics.skipped = 0) ∧
    (∀ output ∈ [quiet, loud],
      (∀ k ∈ output.tokens,
        1 ≤ k.line ∧ k.line ≤ (Statistics.ofTokens output.tokens source).lines) ∧
      output.tokens.Pairwise fun a b => a.line ≤ b.line) ∧
    quiet.metrics = loud.metrics ∧
    List.Forall₂
      (fun a b =>
        a.kind = b.kind ∧ a.value = b.value ∧ a.position = b.position ∧ a.line ≤ b.line)
      quiet.tokens loud.tokens := by
  obtain ⟨spans, hspans⟩ := Segmentation.exists_spans t source.toList
  have hquiet := scan_eq_account ⟨false, log⟩ hspans
  have hloud := scan_eq_account ⟨true, log'⟩ hspans
  intro quiet loud
  have bounds : ∀ settings,
      (∀ k ∈ Span.tokens settings spans, 1 ≤ k.line ∧ k.line ≤ countLines source) ∧
      (Span.tokens settings spans).Pairwise fun a b => a.line ≤ b.line := by
    intro settings
    refine ⟨?_, Span.lines_ascend settings spans⟩
    intro k hk
    refine ⟨?_, hspans.line_le_countLines hk⟩
    obtain ⟨before, _, _, _, _, hline⟩ := Span.mem_tokens_iff.1 hk
    rw [hline]
    exact Span.one_le_lineAfter settings before
  rw [show quiet = _ from hquiet, show loud = _ from hloud]
  refine ⟨⟨spans, hspans, ?_, ?_⟩, ?_, ?_, ?_, rfl, Span.tokens_samePiece log log' spans⟩
  · intro k hk
    obtain ⟨before, after, hsplit, _, hposition, hline⟩ := Span.mem_tokens_iff.1 hk
    exact ⟨before, after, hsplit, hposition, by rw [hline, Span.lineAfter_quiet]⟩
  · intro k hk
    obtain ⟨before, after, hsplit, _, hposition, hline⟩ := Span.mem_tokens_iff.1 hk
    exact ⟨before, after, hsplit, hposition, by rw [hline, Span.lineAfter_loud]⟩
  · intro hskipped
    have hnone := not_skipped_of_metrics hskipped
    constructor
    · intro k hk
      exact hspans.line_of_not_skipped hnone hk
    · simp only
      rw [Span.lineAfter_loud_of_not_skipped log' hnone, hspans.joined_eq, countLines,
        Nat.add_comm]
  · rintro l rfl
    exact ⟨hspans.skipped_builtin, hspans.skipped_builtin⟩
  · intro output houtput
    rcases List.mem_cons.1 houtput with rfl | houtput
    · exact bounds ⟨false, log⟩
    · rw [List.mem_singleton] at houtput
      subst houtput
      exact bounds ⟨true, log'⟩

end Table
end TableLexer
