import TableLexer.Proofs.Scan.Account
import TableLexer.Proofs.Text.Bytes

/-!
# The tokens of a scan

What a scan reports is read off the segmentation of its source.  The tokens are the
emitted spans in order, each at the byte offset where it stands in the source; they
lie side by side without overlap, and their kinds are kinds of the table.  The six
numbers count the spans of the three classes and their bytes, which together are
the bytes of the source.
-/

namespace TableLexer

namespace Span

/-- A span that comes later has the earlier one among the spans before it. -/
theorem pairwise_contexts
    (before spans : List Span) :
    (contexts before spans).Pairwise fun a b =>
      ∃ between, b.1 = a.1 ++ a.2 :: between := by
  induction spans generalizing before with
  | nil =>
      exact List.Pairwise.nil
  | cons s spans ih =>
      refine List.Pairwise.cons ?_ (ih (before ++ [s]))
      rintro ⟨context, x⟩ hx
      obtain ⟨left, _, _, rfl⟩ := mem_contexts_iff.1 hx
      exact ⟨left, by simp⟩

/-- A token stands at the byte offset behind the spans before its own. -/
theorem token?_eq_some_iff
    {settings : ScanSettings}
    {before : List Span} {s : Span} {k : Token} :
    s.token? settings before = some k
      ↔
    s = ⟨some k.kind, k.value.toList⟩ ∧
      k.kind.isFiltered = false ∧
      k.position = offsetAfter before ∧
      k.line = lineAfter settings before := by
  obtain ⟨kind, text⟩ := s
  obtain ⟨tokenKind, value, line, position⟩ := k
  cases kind with
  | none =>
      simp [token?]
  | some kind =>
      constructor
      · intro h
        simp only [token?] at h
        split at h
        · cases h
        · next hkind =>
            cases h
            simpa using hkind
      · rintro ⟨heq, hkind, hposition, hline⟩
        cases heq
        simp only at hkind hposition hline
        simp [token?, hkind, hposition, hline]

/-- The tokens of a sequence of spans are those of its spans in their contexts. -/
theorem mem_tokens_iff
    {settings : ScanSettings}
    {spans : List Span} {k : Token} :
    k ∈ tokens settings spans
      ↔
    ∃ before after,
      spans = before ++ ⟨some k.kind, k.value.toList⟩ :: after ∧
      k.kind.isFiltered = false ∧
      k.position = offsetAfter before ∧
      k.line = lineAfter settings before := by
  simp only [tokens, List.mem_filterMap, Prod.exists]
  constructor
  · rintro ⟨before, s, hs, hk⟩
    obtain ⟨left, after, hspans, hbefore⟩ := mem_contexts_iff.1 hs
    obtain ⟨rfl, hrest⟩ := token?_eq_some_iff.1 hk
    rw [List.nil_append] at hbefore
    subst hbefore
    exact ⟨before, after, hspans, hrest⟩
  · rintro ⟨before, after, hspans, hrest⟩
    exact ⟨before, _, mem_contexts_iff.2 ⟨before, after, hspans, rfl⟩,
      token?_eq_some_iff.2 ⟨rfl, hrest⟩⟩

theorem stop_of_token?
    {settings : ScanSettings}
    {before : List Span} {s : Span} {k : Token}
    (h : s.token? settings before = some k) :
    k.stop = offsetAfter (before ++ [s]) := by
  obtain ⟨rfl, _, hposition, _⟩ := token?_eq_some_iff.1 h
  rw [Token.stop, hposition, offsetAfter_append_singleton, Text.byteCount_toList]

theorem offsetAfter_append
    (xs ys : List Span) :
    offsetAfter (xs ++ ys) = offsetAfter xs + offsetAfter ys := by
  simp [offsetAfter]

/-- Of two tokens the earlier one ends before the later one begins. -/
theorem tokens_side_by_side
    (settings : ScanSettings)
    (spans : List Span) :
    (tokens settings spans).Pairwise fun a b => a.stop ≤ b.position := by
  unfold tokens
  rw [List.pairwise_filterMap]
  refine (pairwise_contexts [] spans).imp ?_
  rintro ⟨before, s⟩ ⟨context, x⟩ ⟨between, hcontext⟩ a ha b hb
  obtain ⟨_, _, hposition, _⟩ := token?_eq_some_iff.1 hb
  simp only at hcontext ha
  have hsplit : context = (before ++ [s]) ++ between := by
    rw [hcontext, List.append_assoc, List.singleton_append]
  rw [stop_of_token? ha, hposition, hsplit, offsetAfter_append (before ++ [s])]
  exact Nat.le_add_right _ _

end Span

namespace ScanMetrics

/-- Every span belongs to one class, so the bytes of the classes are all bytes. -/
theorem consumedBytes_ofSpans
    (spans : List Span) :
    (ofSpans spans).consumedBytes = Text.byteCount (Span.joined spans) := by
  induction spans using List.reverseRecOn with
  | nil =>
      rfl
  | append_singleton spans s ih =>
      rw [ofSpans_append_singleton, Span.joined_append, Text.byteCount_append, ← ih]
      split
      · simp [consumedBytes, addFiltered]
        omega
      · split
        · simp [consumedBytes, addEmitted]
          omega
        · simp [consumedBytes, addSkipped]
          omega

end ScanMetrics

namespace Table

theorem mem_kinds_iff
    {t : Table} {k : Kind} :
    k ∈ t.kinds ↔ ∃ r ∈ t.rules, r.kind = k := by
  have hfold : ∀ (rules : List Rule) (found : List Kind),
      k ∈ rules.foldl
          (fun found r => if found.contains r.kind then found else found ++ [r.kind]) found
        ↔
      k ∈ found ∨ ∃ r ∈ rules, r.kind = k := by
    intro rules
    induction rules with
    | nil =>
        simp
    | cons r rules ih =>
        intro found
        rw [List.foldl_cons, ih]
        by_cases hr : found.contains r.kind = true
        · have hmem : r.kind ∈ found := by simpa using hr
          rw [if_pos hr]
          constructor
          · rintro (hk | ⟨x, hx, hkind⟩)
            · exact Or.inl hk
            · exact Or.inr ⟨x, List.mem_cons_of_mem r hx, hkind⟩
          · rintro (hk | ⟨x, hx, hkind⟩)
            · exact Or.inl hk
            · rcases List.mem_cons.1 hx with rfl | hx
              · exact Or.inl (hkind ▸ hmem)
              · exact Or.inr ⟨x, hx, hkind⟩
        · rw [if_neg hr]
          simp [or_assoc, eq_comm]
  simpa [kinds] using hfold t.rules []

theorem kind_mem_kinds
    {t : Table} {input text : List Char} {kind : Kind}
    (h : t.FirstMatch input kind text) :
    kind ∈ t.kinds := by
  obtain ⟨earlier, r, later, hrules, _, _, hkind⟩ := h
  refine mem_kinds_iff.2 ⟨r, ?_, hkind⟩
  rw [hrules]
  simp

variable {t : Table} {source : String} {spans : List Span}

/-- The spans before a span and behind it are the source around its text. -/
theorem Segmentation.source_eq
    {before after : List Span} {s : Span}
    (h : t.Segmentation source.toList (before ++ s :: after)) :
    source
        = String.ofList (Span.joined before) ++ String.ofList s.text
          ++ String.ofList (Span.joined after) ∧
      (String.ofList (Span.joined before)).utf8ByteSize = Span.offsetAfter before := by
  constructor
  · apply String.toList_inj.1
    rw [← h.joined_eq]
    simp
  · rw [Text.utf8ByteSize_ofList]
    rfl

/-- A token is one of the spans, and the source goes around it. -/
theorem Segmentation.exists_split
    {settings : ScanSettings} {k : Token}
    (h : t.Segmentation source.toList spans)
    (hk : k ∈ Span.tokens settings spans) :
    ∃ before after,
      spans = before ++ ⟨some k.kind, k.value.toList⟩ :: after ∧
      source
        =
      String.ofList (Span.joined before) ++ k.value ++ String.ofList (Span.joined after) ∧
      (String.ofList (Span.joined before)).utf8ByteSize = k.position := by
  obtain ⟨before, after, rfl, _, hposition, _⟩ := Span.mem_tokens_iff.1 hk
  obtain ⟨hsource, hbytes⟩ := h.source_eq
  rw [String.ofList_toList] at hsource
  exact ⟨before, after, rfl, hsource, hbytes.trans hposition.symm⟩

theorem Segmentation.exists_source_eq
    {settings : ScanSettings} {k : Token}
    (h : t.Segmentation source.toList spans)
    (hk : k ∈ Span.tokens settings spans) :
    ∃ before after : String,
      source = before ++ k.value ++ after ∧
      before.utf8ByteSize = k.position := by
  obtain ⟨_, _, _, hsource, hposition⟩ := h.exists_split hk
  exact ⟨_, _, hsource, hposition⟩

theorem Segmentation.kind_mem
    {settings : ScanSettings} {k : Token}
    (h : t.Segmentation source.toList spans)
    (hk : k ∈ Span.tokens settings spans) :
    k.kind ∈ t.kinds := by
  obtain ⟨before, after, rfl, _⟩ := Span.mem_tokens_iff.1 hk
  exact kind_mem_kinds h.decides

theorem Segmentation.position_lt_stop
    {settings : ScanSettings} {k : Token}
    (h : t.Segmentation source.toList spans)
    (hk : k ∈ Span.tokens settings spans) :
    k.position < k.stop := by
  obtain ⟨before, after, rfl, _⟩ := Span.mem_tokens_iff.1 hk
  have hne := h.text_ne_nil ⟨some k.kind, k.value.toList⟩ (by simp)
  have hpos := Text.byteCount_pos hne
  rw [Text.byteCount_toList] at hpos
  unfold Token.stop
  omega

theorem Segmentation.positions_ascend
    (settings : ScanSettings)
    (h : t.Segmentation source.toList spans) :
    (Span.tokens settings spans).Pairwise fun a b => a.position < b.position := by
  refine (Span.tokens_side_by_side settings spans).imp_of_mem ?_
  intro a b ha _ hle
  exact Nat.lt_of_lt_of_le (h.position_lt_stop ha) hle

/--
A scan reports one segmentation of its source, the only one there is.  The spans,
joined, are the source; none is empty; each is the text of the first rule that
matches the rest of the source at its place, or one character if no rule does.  The
tokens are the emitted spans in order, at their places in the source and side by
side; the numbers are those of the spans.
-/
theorem scan_reports_segmentation
    (t : Table)
    (settings : ScanSettings)
    (source : String) :
    ∃ spans : List Span,
      (∀ others, t.Segmentation source.toList others ↔ others = spans) ∧
      Span.joined spans = source.toList ∧
      (∀ s ∈ spans, s.text ≠ []) ∧
      (∀ before s after,
        spans = before ++ s :: after →
        t.findMatch (Span.joined (s :: after)) = s.kind.map (fun kind => (kind, s.text)) ∧
        t.Decides (Span.joined (s :: after)) s) ∧
      (t.scan settings source).tokens = Span.tokens settings spans ∧
      (∀ k ∈ (t.scan settings source).tokens,
        k.kind ∈ t.kinds ∧
        ∃ before after : String,
          source = before ++ k.value ++ after ∧
          before.utf8ByteSize = k.position) ∧
      (t.scan settings source).tokens.Pairwise
        (fun a b => a.position < b.position ∧ a.stop ≤ b.position) ∧
      (t.scan settings source).metrics = ScanMetrics.ofSpans spans ∧
      (t.scan settings source).metrics.consumedBytes = source.utf8ByteSize := by
  obtain ⟨spans, hspans⟩ := Segmentation.exists_spans t source.toList
  have hscan := scan_eq_account settings hspans
  have htokens : (t.scan settings source).tokens = Span.tokens settings spans := by
    rw [hscan]
  have hmetrics : (t.scan settings source).metrics = .ofSpans spans := by
    rw [hscan]
  refine ⟨spans, ?_, hspans.joined_eq, hspans.text_ne_nil, ?_, htokens, ?_, ?_,
    hmetrics, ?_⟩
  · intro others
    constructor
    · exact hspans.unique
    · rintro rfl
      exact hspans
  · rintro before s after rfl
    exact ⟨hspans.findMatch_eq, hspans.decides⟩
  · intro k hk
    rw [htokens] at hk
    exact ⟨hspans.kind_mem hk, hspans.exists_source_eq hk⟩
  · rw [htokens]
    exact (hspans.positions_ascend settings).and (Span.tokens_side_by_side settings spans)
  · rw [hmetrics, ScanMetrics.consumedBytes_ofSpans, hspans.joined_eq,
      Text.byteCount_toList]

end Table
end TableLexer
