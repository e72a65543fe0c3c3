import Mathlib.Data.List.Forall2
import TableLexer.Proofs.Scan.Tokens

/-!
# Restarting a scan

At an edge between two spans a scan knows nothing of the source before it but the
byte offset and the line.  So a scan that starts anew at the edge finds the spans
that the first one finds there, and its tokens are those of the first one behind the
edge, moved back by that offset and by the lines before the edge.  The numbers of
the two parts add up.

The law of the account is `tokens_append`: the tokens of two sequences of spans are
those of the first and, moved on, those of the second.
-/

namespace TableLexer

/-- The token as it is behind further bytes and further lines. -/
def Token.moved
    (bytes lines : Nat)
    (k : Token) :
    Token :=
  { k with
    line := advanceLine k.line lines
    position := k.position + bytes }

namespace ScanMetrics

/-- The numbers of both, each one on its own. -/
instance : Add ScanMetrics where
  add m n :=
    { emitted := m.emitted + n.emitted
      emittedBytes := m.emittedBytes + n.emittedBytes
      filtered := m.filtered + n.filtered
      filteredBytes := m.filteredBytes + n.filteredBytes
      skipped := m.skipped + n.skipped
      skippedBytes := m.skippedBytes + n.skippedBytes }

theorem bytesOf_append
    (p : Span → Bool)
    (xs ys : List Span) :
    bytesOf p (xs ++ ys) = bytesOf p xs + bytesOf p ys := by
  simp [bytesOf]

theorem ofSpans_append
    (xs ys : List Span) :
    ofSpans (xs ++ ys) = ofSpans xs + ofSpans ys := by
  simp only [ofSpans, bytesOf_append, List.countP_append]
  rfl

end ScanMetrics

namespace Span

variable (settings : ScanSettings) (before after : List Span)

/-- The line goes on from where the first spans leave it, as far as line numbers go. -/
theorem lineAfter_append :
    lineAfter settings (before ++ after)
      =
    advanceLine (lineAfter settings after) (lineAfter settings before - 1) := by
  simp only [lineAfter, advanceLine, List.filter_append, joined_append,
    Text.newlines_append]
  omega

theorem contexts_eq_map :
    contexts before after
      =
    (contexts [] after).map fun (context, s) => (before ++ context, s) := by
  induction after generalizing before with
  | nil =>
      rfl
  | cons s after ih =>
      rw [contexts, contexts, List.map_cons, List.nil_append, ih (before ++ [s]), ih [s],
        List.map_map]
      simp [Function.comp_def]

theorem token?_append
    (s : Span) :
    s.token? settings (before ++ after)
      =
    (s.token? settings after).map
      (Token.moved (offsetAfter before) (lineAfter settings before - 1)) := by
  obtain ⟨kind, text⟩ := s
  cases kind with
  | none =>
      rfl
  | some kind =>
      cases hkind : kind.isFiltered with
      | true =>
          simp [token?, hkind]
      | false =>
          have hline := lineAfter_append settings before after
          have hoffset := offsetAfter_append before after
          simp [token?, hkind, Token.moved, hline, hoffset, Nat.add_comm]

/-- The tokens behind an edge are those of the spans behind it, moved on. -/
theorem tokens_append :
    tokens settings (before ++ after)
      =
    tokens settings before ++
      (tokens settings after).map
        (Token.moved (offsetAfter before) (lineAfter settings before - 1)) := by
  have hafter :
      (contexts before after).filterMap (fun x => x.2.token? settings x.1)
        =
      (tokens settings after).map
        (Token.moved (offsetAfter before) (lineAfter settings before - 1)) := by
    rw [contexts_eq_map, List.filterMap_map, tokens, List.map_filterMap]
    congr 1
    funext x
    obtain ⟨context, s⟩ := x
    exact token?_append settings before context s
  rw [← hafter, tokens, contexts_append, List.filterMap_append, List.nil_append]
  rfl

end Span

namespace Table

variable {t : Table} {source : List Char} {before after : List Span}

/-- The first spans of a segmentation end in front of the edge, the others begin
behind it. -/
theorem Segmentation.filter_tokens
    (settings : ScanSettings)
    (h : t.Segmentation source (before ++ after)) :
    (Span.tokens settings (before ++ after)).filter
        (fun k => decide (Span.offsetAfter before ≤ k.position))
      =
    (Span.tokens settings after).map
      (Token.moved (Span.offsetAfter before) (Span.lineAfter settings before - 1)) := by
  have hleft : ∀ k ∈ Span.tokens settings before,
      ¬ decide (Span.offsetAfter before ≤ k.position) = true := by
    intro k hk
    obtain ⟨left, right, rfl, _, hposition, _⟩ := Span.mem_tokens_iff.1 hk
    have hne := h.text_ne_nil ⟨some k.kind, k.value.toList⟩ (by simp)
    have hpos := Text.byteCount_pos hne
    have hoffset := Span.offsetAfter_append left (⟨some k.kind, k.value.toList⟩ :: right)
    have hcons : Span.offsetAfter (⟨some k.kind, k.value.toList⟩ :: right)
        = Text.byteCount k.value.toList + Span.offsetAfter right := by
      simp [Span.offsetAfter]
    simp only at hpos
    rw [decide_eq_true_eq]
    omega
  have hright : ∀ k ∈ (Span.tokens settings after).map
      (Token.moved (Span.offsetAfter before) (Span.lineAfter settings before - 1)),
      decide (Span.offsetAfter before ≤ k.position) = true := by
    intro k hk
    obtain ⟨x, _, rfl⟩ := List.mem_map.1 hk
    simp [Token.moved]
  rw [Span.tokens_append, List.filter_append, List.filter_eq_nil_iff.2 hleft,
    List.filter_eq_self.2 hright, List.nil_append]

/-- A span of the source begins or ends at the byte offset. -/
def SpanEdge
    (t : Table)
    (source : String)
    (b : Nat) :
    Prop :=
  ∃ before s after,
    t.Segmentation source.toList (before ++ s :: after) ∧
    (b = Span.offsetAfter before ∨ b = Span.offsetAfter (before ++ [s]))

theorem SpanEdge.exists_split
    {source : String} {b : Nat}
    (h : t.SpanEdge source b) :
    ∃ before after,
      t.Segmentation source.toList (before ++ after) ∧
      b = Span.offsetAfter before := by
  obtain ⟨before, s, after, hsegmentation, hb | hb⟩ := h
  · exact ⟨before, s :: after, hsegmentation, hb⟩
  · refine ⟨before ++ [s], after, ?_, hb⟩
    rw [List.append_assoc]
    exact hsegmentation

/--
Restarting a scan at an edge changes nothing.  The edge splits the source between two
characters, and the spans before it bring the scan into a state with a line counter.  The
rest of the source, scanned on its own, gives the tokens of the scan that do not start
before the edge, in order, with the edge taken off their positions and, up to the largest
line number, the lines before the edge taken off their lines.  The numbers of the scan are
those of the spans before the edge and those of the rest.
-/
theorem scan_restarts_at_edge
    (t : Table)
    (settings : ScanSettings)
    (source : String) (b : Nat)
    (h : t.SpanEdge source b) :
    ∃ (front back : String) (before after : List Span),
      source = front ++ back ∧
      front.utf8ByteSize = b ∧
      t.Segmentation source.toList (before ++ after) ∧
      Span.joined before = front.toList ∧
      let state := before.foldl (ScanState.after settings) .start
      let whole := t.scan settings source
      let restarted := t.scan settings back
      t.scanFrom settings .start source.toList = t.scanFrom settings state back.toList ∧
      List.Forall₂
        (fun r k : Token =>
          r.kind = k.kind ∧
          r.value = k.value ∧
          r.position = k.position - b ∧
          k.line = min (r.line + (state.line - 1)) maxLine ∧
          (k.line < maxLine → r.line = k.line - (state.line - 1)))
        restarted.tokens (whole.tokens.filter fun k => b ≤ k.position) ∧
      state.metrics = ScanMetrics.ofSpans before ∧
      whole.metrics = state.metrics + restarted.metrics := by
  obtain ⟨before, after, hsegmentation, rfl⟩ := h.exists_split
  have hrest := hsegmentation.of_append
  have hback : t.Segmentation (String.ofList (Span.joined after)).toList after := by
    rw [String.toList_ofList]
    exact hrest
  have hsource : source.toList = Span.joined before ++ Span.joined after := by
    rw [← Span.joined_append, hsegmentation.joined_eq]
  have hstate : before.foldl (ScanState.after settings) .start =
      .ofSpans settings before := by
    rw [← ScanState.ofSpans_nil settings, ScanState.foldl_after_ofSpans, List.nil_append]
  have hwhole := scan_eq_account settings hsegmentation
  have hrestarted := scan_eq_account settings hback
  refine ⟨.ofList (Span.joined before), .ofList (Span.joined after), before, after, ?_,
    Text.utf8ByteSize_ofList _, hsegmentation, (String.toList_ofList).symm, ?_⟩
  · apply String.toList_inj.1
    rw [hsource]
    simp
  · intro state whole restarted
    have hline : state.line = Span.lineAfter settings before := by
      simp only [state, hstate, ScanState.ofSpans]
    have hmetrics : state.metrics = ScanMetrics.ofSpans before := by
      simp only [state, hstate, ScanState.ofSpans]
    refine ⟨?_, ?_, hmetrics, ?_⟩
    · rw [scanFrom_eq_foldl settings .start hsegmentation,
        scanFrom_eq_foldl settings state hback, List.foldl_append]
    · rw [show whole = _ from hwhole, show restarted = _ from hrestarted]
      simp only
      rw [hsegmentation.filter_tokens settings, List.forall₂_map_right_iff,
        List.forall₂_same]
      intro k hk
      rw [hline]
      refine ⟨rfl, rfl, ?_, rfl, ?_⟩
      · simp [Token.moved]
      · simp only [Token.moved, advanceLine]
        omega
    · rw [show whole = _ from hwhole, show restarted = _ from hrestarted, hmetrics]
      exact ScanMetrics.ofSpans_append before after

/-- Between two tags on lines of their own. -/
theorem scan_restarts_behind_newline :
    (builtin .html).SpanEdge "<a\n<b" 3 ∧
    ∃ front back : String,
      "<a\n<b" = front ++ back ∧
      front.utf8ByteSize = 3 ∧
      List.Forall₂
        (fun r k : Token => r.kind = k.kind ∧ r.value = k.value ∧
          r.position = k.position - 3)
        ((builtin .html).scan ⟨true, false⟩ back).tokens
        [⟨.tag, "<b", 2, 3⟩] := by
  have hlast : (builtin .html).Segmentation ['<', 'b'] [⟨some .tag, ['<', 'b']⟩] :=
    @Segmentation.taken _ .tag ['<', 'b'] [] [] (by decide +kernel) .nil
  have hblank :
      (builtin .html).Segmentation ['\n', '<', 'b']
        [⟨some .whitespace, ['\n']⟩, ⟨some .tag, ['<', 'b']⟩] :=
    @Segmentation.taken _ .whitespace ['\n'] _ _ (by decide +kernel) hlast
  have hfirst :
      (builtin .html).Segmentation ['<', 'a', '\n', '<', 'b']
        [⟨some .tag, ['<', 'a']⟩, ⟨some .whitespace, ['\n']⟩, ⟨some .tag, ['<', 'b']⟩] :=
    @Segmentation.taken _ .tag ['<', 'a'] _ _ (by decide +kernel) hblank
  have hedge : (builtin .html).SpanEdge "<a\n<b" 3 :=
    ⟨[⟨some .tag, ['<', 'a']⟩], ⟨some .whitespace, ['\n']⟩,
     [⟨some .tag, ['<', 'b']⟩], hfirst, Or.inr rfl⟩
  have hfilter :
      ((builtin .html).scan ⟨true, false⟩ "<a\n<b").tokens.filter (fun k => 3 ≤ k.position)
        =
      [⟨.tag, "<b", 2, 3⟩] := by
    decide +kernel
  obtain ⟨front, back, before, after, hsource, hbytes, _, _, _, htokens, _⟩ :=
    scan_restarts_at_edge (builtin .html) ⟨true, false⟩ "<a\n<b" 3 hedge
  rw [hfilter] at htokens
  refine ⟨hedge, front, back, hsource, hbytes, htokens.imp ?_⟩
  rintro r k ⟨hkind, hvalue, hposition, _⟩
  exact ⟨hkind, hvalue, hposition⟩

end Table
end TableLexer
