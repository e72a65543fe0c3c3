import TableLexer.Proofs.Segmentation
import TableLexer.Scan

/-!
# What a scan accounts for

A scan carries a line, an offset, the tokens so far and six numbers from span to
span.  `ScanState.ofSpans` says what they have to be after any sequence of spans,
without running anything: the line counts line feeds in the joined text of the
spans that count, the offset is the number of bytes of all spans, each emitted span
gives a token that knows only the spans before it, and the numbers count the spans
of each class.

The account is the invariant of the scan.  `after_ofSpans` is its step: the state
behind one more span is the account of the longer sequence.  `scan_eq_account` is
the run: a scan is the account of the segmentation of its source.
-/

namespace TableLexer

namespace Span

/-- Each span together with the spans before it. -/
def contexts (before : List Span) : List Span → List (List Span × Span)
  | [] => []
  | s :: rest => (before, s) :: contexts (before ++ [s]) rest

theorem contexts_append
    (before xs ys : List Span) :
    contexts before (xs ++ ys)
      =
    contexts before xs ++ contexts (before ++ xs) ys := by
  induction xs generalizing before with
  | nil =>
      simp [contexts]
  | cons s xs ih =>
      simp [contexts, ih]

theorem mem_contexts_iff
    {before spans context : List Span} {s : Span} :
    (context, s) ∈ contexts before spans
      ↔
    ∃ left right,
      spans = left ++ s :: right ∧
      context = before ++ left := by
  induction spans generalizing before with
  | nil =>
      simp [contexts]
  | cons x spans ih =>
      rw [contexts, List.mem_cons, ih]
      constructor
      · rintro (heq | ⟨left, right, rfl, rfl⟩)
        · cases heq
          exact ⟨[], spans, rfl, (List.append_nil _).symm⟩
        · exact ⟨x :: left, right, rfl, by simp⟩
      · rintro ⟨left, right, hspans, rfl⟩
        cases left with
        | nil =>
            cases hspans
            exact Or.inl (by simp)
        | cons y left =>
            cases hspans
            exact Or.inr ⟨left, right, rfl, by simp⟩

/-- The line feeds in the span move the line count on. -/
def countsLines
    (settings : ScanSettings)
    (s : Span) :
    Bool :=
  s.isFiltered || (settings.countNewlines && s.isEmitted)

/-- The line behind a sequence of spans: one more than the line feeds in those that
count, as far as line numbers go. -/
def lineAfter
    (settings : ScanSettings)
    (spans : List Span) :
    Nat :=
  min (1 + Text.newlines (joined (spans.filter (countsLines settings)))) maxLine

def offsetAfter (spans : List Span) : Nat :=
  Text.byteCount (joined spans)

/-- The token of a span behind other spans, if the span is emitted. -/
def token?
    (settings : ScanSettings)
    (before : List Span)
    (s : Span) :
    Option Token :=
  match s.kind with
  | some kind =>
    if kind.isFiltered then none
    else some ⟨kind, String.ofList s.text, lineAfter settings before, offsetAfter before⟩
  | none => none

/-- The tokens of a sequence of spans, in order. -/
def tokens
    (settings : ScanSettings)
    (spans : List Span) :
    List Token :=
  (contexts [] spans).filterMap fun (before, s) => s.token? settings before

end Span

namespace ScanMetrics

/-- The bytes of the spans of a class. -/
def bytesOf
    (p : Span → Bool)
    (spans : List Span) :
    Nat :=
  Text.byteCount (Span.joined (spans.filter p))

/-- The numbers of a sequence of spans. -/
def ofSpans (spans : List Span) : ScanMetrics where
  emitted := spans.countP Span.isEmitted
  emittedBytes := bytesOf Span.isEmitted spans
  filtered := spans.countP Span.isFiltered
  filteredBytes := bytesOf Span.isFiltered spans
  skipped := spans.countP Span.isSkipped
  skippedBytes := bytesOf Span.isSkipped spans

theorem bytesOf_append_singleton
    (p : Span → Bool)
    (spans : List Span) (s : Span) :
    bytesOf p (spans ++ [s])
      =
    bytesOf p spans + if p s then Text.byteCount s.text else 0 := by
  cases h : p s <;> simp [bytesOf, h]

/-- One more span counts in exactly one of the three classes. -/
theorem ofSpans_append_singleton
    (spans : List Span) (s : Span) :
    ofSpans (spans ++ [s])
      =
    if s.isFiltered then (ofSpans spans).addFiltered (Text.byteCount s.text)
    else if s.isEmitted then (ofSpans spans).addEmitted (Text.byteCount s.text)
    else (ofSpans spans).addSkipped (Text.byteCount s.text) := by
  obtain ⟨kind, text⟩ := s
  simp only [ofSpans, bytesOf_append_singleton, List.countP_append, List.countP_singleton]
  cases kind with
  | none =>
      simp [Span.isFiltered, Span.isEmitted, Span.isSkipped, addSkipped]
  | some kind =>
      cases hkind : kind.isFiltered <;>
        simp [Span.isFiltered, Span.isEmitted, Span.isSkipped, addFiltered,
          addEmitted, hkind]

end ScanMetrics

namespace Span

/-- The line stops at the same place whether line feeds are counted on or all at once. -/
theorem lineAfter_append_singleton
    (settings : ScanSettings)
    (spans : List Span) (s : Span) :
    lineAfter settings (spans ++ [s])
      =
    if countsLines settings s then
      advanceLine (lineAfter settings spans) (newlineCount s.text)
    else
      lineAfter settings spans := by
  cases h : countsLines settings s with
  | false =>
      simp [lineAfter, h]
  | true =>
      simp [lineAfter, h, advanceLine, newlineCount]
      omega

theorem offsetAfter_append_singleton
    (spans : List Span) (s : Span) :
    offsetAfter (spans ++ [s]) = offsetAfter spans + Text.byteCount s.text := by
  simp [offsetAfter]

theorem tokens_append_singleton
    (settings : ScanSettings)
    (spans : List Span) (s : Span) :
    tokens settings (spans ++ [s])
      =
    tokens settings spans ++ (s.token? settings spans).toList := by
  unfold tokens
  rw [contexts_append, List.filterMap_append]
  cases h : s.token? settings spans <;> simp [contexts, h]

end Span

namespace ScanState

/-- The state that a sequence of spans accounts for. -/
def ofSpans
    (settings : ScanSettings)
    (spans : List Span) :
    ScanState where
  line := Span.lineAfter settings spans
  offset := Span.offsetAfter spans
  tokens := (Span.tokens settings spans).reverse
  metrics := .ofSpans spans

@[simp] theorem ofSpans_nil
    (settings : ScanSettings) :
    ofSpans settings [] = start := by
  rfl

/-- One step keeps the account: the state behind one more span accounts for it. -/
theorem after_ofSpans
    (settings : ScanSettings)
    (spans : List Span) (s : Span) :
    (ofSpans settings spans).after settings s
      =
    ofSpans settings (spans ++ [s]) := by
  obtain ⟨kind, text⟩ := s
  unfold ofSpans
  rw [Span.lineAfter_append_singleton, Span.offsetAfter_append_singleton,
    Span.tokens_append_singleton, ScanMetrics.ofSpans_append_singleton]
  cases kind with
  | none =>
      simp [after, skip, Span.token?, Span.countsLines, Span.isFiltered, Span.isEmitted]
  | some kind =>
      cases hkind : kind.isFiltered with
      | true =>
          simp [after, filter, Span.token?, Span.countsLines, Span.isFiltered, hkind]
      | false =>
          simp [after, emit, Span.token?, Span.countsLines, Span.isFiltered,
            Span.isEmitted, hkind]

theorem foldl_after_ofSpans
    (settings : ScanSettings)
    (before spans : List Span) :
    spans.foldl (after settings) (ofSpans settings before)
      =
    ofSpans settings (before ++ spans) := by
  induction spans generalizing before with
  | nil =>
      simp
  | cons s spans ih =>
      rw [List.foldl_cons, after_ofSpans, ih, List.append_assoc]
      rfl

end ScanState

namespace Table

variable {t : Table} {spans : List Span}

/-- A scan goes over the segmentation of its source, one span after the other. -/
theorem scanFrom_eq_foldl
    {source : List Char}
    (settings : ScanSettings)
    (state : ScanState)
    (h : t.Segmentation source spans) :
    t.scanFrom settings state source
      =
    spans.foldl (ScanState.after settings) state := by
  induction h generalizing state with
  | nil =>
      rw [scanFrom, List.foldl_nil]
  | @taken kind text rest spans hfind _ ih =>
      have hne := (findMatch_eq_some hfind).1
      cases text with
      | nil =>
          exact absurd rfl hne
      | cons c text =>
          rw [List.cons_append] at hfind ⊢
          rw [scanFrom, headSpan_of_findMatch hfind, List.foldl_cons, ← ih]
          simp
  | @skipped c rest spans hnone _ ih =>
      rw [scanFrom, headSpan_of_findMatch_none hnone, List.foldl_cons, ← ih]
      simp

/-- A scan is the account of the segmentation of its source. -/
theorem scan_eq_account
    {source : String}
    (settings : ScanSettings)
    (h : t.Segmentation source.toList spans) :
    t.scan settings source
      =
    { language := t.language
      tokens := Span.tokens settings spans
      metrics := .ofSpans spans
      line := Span.lineAfter settings spans } := by
  have hrun :
      t.scanFrom settings .start source.toList = .ofSpans settings spans := by
    rw [scanFrom_eq_foldl settings .start h, ← ScanState.ofSpans_nil settings]
    exact ScanState.foldl_after_ofSpans settings [] spans
  simp [scan, hrun, ScanState.ofSpans]

end Table
end TableLexer
