import Mathlib.Data.List.Nodup
import TableLexer.Proofs.Builtin.Alone
import TableLexer.Proofs.Builtin.Separated

/-!
# Normal programs

The normal text of a program is made of its tokens' values, one on each line; blanks and
comments are gone.  For the programming languages it has the tokens of the program.

A token is found again before a line feed and the normal text of what follows, because
that text is made of parts of what followed before (`findMatch_newline`), and the line
feed is a blank of its own, because no token starts with a blank (`findMatch_blank`).
An induction on the segmentation of the program puts the segmentation of its normal text
together.
-/

namespace TableLexer

namespace Span

/-- The kind and the text of a span that becomes a token. -/
def piece? (s : Span) : Option (Kind × List Char) :=
  match s.kind with
  | some kind => if kind.isFiltered then none else some (kind, s.text)
  | none => none

/-- The kinds and the texts of the tokens of spans. -/
def pieces (spans : List Span) : List (Kind × List Char) :=
  spans.filterMap piece?

/-- The texts of the tokens of spans, one on each line. -/
def normal (spans : List Span) : List Char :=
  ['\n'].intercalate ((pieces spans).map Prod.snd)

theorem piece?_eq_some_iff
    {s : Span} {kind : Kind} {text : List Char} :
    s.piece? = some (kind, text)
      ↔
    s = ⟨some kind, text⟩ ∧ kind.isFiltered = false := by
  obtain ⟨k, v⟩ := s
  cases k with
  | none =>
      simp [piece?]
  | some k =>
      cases hk : k.isFiltered with
      | true =>
          simp only [piece?, hk, if_true]
          constructor
          · intro h
            cases h
          · rintro ⟨heq, hkind⟩
            cases heq
            rw [hk] at hkind
            cases hkind
      | false =>
          simp only [piece?, hk, Bool.false_eq_true, if_false]
          constructor
          · intro h
            cases h
            exact ⟨rfl, hk⟩
          · rintro ⟨heq, _⟩
            cases heq
            rfl

theorem pieces_cons_of_filtered
    {kind : Kind} (hkind : kind.isFiltered = true)
    (text : List Char) (spans : List Span) :
    pieces (⟨some kind, text⟩ :: spans) = pieces spans :=
  List.filterMap_cons_none (by simp [piece?, hkind])

theorem pieces_cons_of_emitted
    {kind : Kind} (hkind : kind.isFiltered = false)
    (text : List Char) (spans : List Span) :
    pieces (⟨some kind, text⟩ :: spans) = (kind, text) :: pieces spans :=
  List.filterMap_cons_some (piece?_eq_some_iff.2 ⟨rfl, hkind⟩)

/-- The first token's text ends the normal text or its line. -/
theorem normal_cons_of_emitted
    {kind : Kind} (hkind : kind.isFiltered = false)
    (text : List Char) (spans : List Span) :
    normal (⟨some kind, text⟩ :: spans)
      =
    if pieces spans = [] then text else text ++ '\n' :: normal spans := by
  rw [normal, normal, pieces_cons_of_emitted hkind]
  cases pieces spans with
  | nil =>
      simp
  | cons p ps =>
      simp [List.intercalate_cons_cons]

theorem token?_map_piece
    (settings : ScanSettings)
    (before : List Span) (s : Span) :
    (s.token? settings before).map (fun k => (k.kind, k.value.toList)) = s.piece? := by
  obtain ⟨kind, text⟩ := s
  cases kind with
  | none =>
      rfl
  | some kind =>
      cases hkind : kind.isFiltered <;> simp [token?, piece?, hkind]

theorem contexts_map_snd
    (before spans : List Span) :
    (contexts before spans).map Prod.snd = spans := by
  induction spans generalizing before with
  | nil =>
      rfl
  | cons s spans ih =>
      rw [contexts, List.map_cons, ih]

/-- Tokens are pieces with a line and a position. -/
theorem tokens_map_pieces
    (settings : ScanSettings)
    (spans : List Span) :
    (tokens settings spans).map (fun k => (k.kind, k.value.toList)) = pieces spans := by
  have hpieces :
      pieces spans = (contexts [] spans).filterMap fun context => context.2.piece? := by
    rw [pieces, ← contexts_map_snd [] spans, List.filterMap_map, contexts_map_snd]
    rfl
  rw [hpieces, tokens, List.map_filterMap]
  simp only [token?_map_piece]

end Span

namespace Table

open Pattern

theorem Segmentation.noNewPart_normal
    {t : Table} {source : List Char} {spans : List Span}
    (h : t.Segmentation source spans) :
    Plain.NoNewPart (Span.normal spans) source := by
  intro part hnewline hne hpart
  obtain ⟨text, htext, hinfix⟩ := exists_infix_of_infix_intercalate hnewline hne hpart
  obtain ⟨⟨kind, _⟩, hmem, rfl⟩ := List.mem_map.1 htext
  obtain ⟨s, hs, hpiece⟩ := List.mem_filterMap.1 hmem
  obtain ⟨rfl, _⟩ := Span.piece?_eq_some_iff.1 hpiece
  apply hinfix.trans
  rw [← h.joined_eq, Span.joined, List.flatMap_def]
  exact List.infix_of_mem_flatten (List.mem_map_of_mem hs)

/-- A piece of a segmentation is what the table finds before some rest of the source. -/
theorem Segmentation.exists_findMatch
    {t : Table} {source : List Char} {spans : List Span}
    {kind : Kind} {text : List Char}
    (h : t.Segmentation source spans)
    (hpiece : (kind, text) ∈ Span.pieces spans) :
    kind.isFiltered = false ∧ ∃ more, t.findMatch (text ++ more) = some (kind, text) := by
  obtain ⟨s, hs, hpiece⟩ := List.mem_filterMap.1 hpiece
  obtain ⟨rfl, hkind⟩ := Span.piece?_eq_some_iff.1 hpiece
  obtain ⟨before, after, rfl⟩ := List.append_of_mem hs
  exact ⟨hkind, _, h.findMatch_eq⟩

namespace Lexicon.Regular

variable {x : Lexicon} {kind : Kind} {v more later : List Char}

/-- Whether a blank or any other character stands somewhere is seen from it alone. -/
theorem chars?_other_none
    {e : Kind × Plain} {c : Char} {rest rest' : List Char}
    (he : e ∈ otherPatterns)
    (h : e.2.chars? (c :: rest) = none) :
    e.2.chars? (c :: rest') = none := by
  simp only [otherPatterns, List.mem_cons, List.not_mem_nil, or_false] at he
  rcases he with rfl | rfl
  · simp only [Plain.run, Plain.chars?_one_many] at h ⊢
    by_cases hc : CharSet.blank.contains c = true
    · simp [hc] at h
    · simp [hc]
  · simp [Plain.chars?_one, CharSet.contains_all] at h

/-- A match alone and before the rest stays before a line feed and parts of the rest. -/
theorem firstMatch?_newline
    (hx : x.Regular)
    (hv : v ≠ [])
    (hkind : kind.isFiltered = false)
    (hlater : Plain.NoNewPart later more)
    (hmore : firstMatch? x.patterns (v ++ more) = some (kind, v.length))
    (halone : firstMatch? x.patterns v = some (kind, v.length)) :
    firstMatch? x.patterns (v ++ '\n' :: later) = some (kind, v.length) := by
  obtain ⟨p, hmem, _⟩ := exists_mem_of_firstMatch? hmore
  obtain ⟨earlier, others, hsplit⟩ := List.append_of_mem hmem
  have hkinds := kinds_nodup x
  rw [hsplit, List.map_append, List.map_cons, List.nodup_middle, List.nodup_cons,
    List.mem_append, not_or] at hkinds
  obtain ⟨⟨hearlier, hothers⟩, _⟩ := hkinds
  have hpatterns : ∀ e ∈ x.patterns,
      e ∈ x.wordPatterns ++ x.signPatterns ∨ e ∈ otherPatterns := by
    intro e he
    rwa [patterns, ← List.append_assoc, List.mem_append] at he
  obtain ⟨c, w, rfl⟩ := List.exists_cons_of_ne_nil hv
  rw [hsplit, firstMatch?_split_iff hearlier hothers] at hmore halone ⊢
  constructor
  · intro e he
    have hnone := halone.1 e he
    have he' : e ∈ x.patterns := by
      rw [hsplit]
      exact List.mem_append_left _ he
    rcases hpatterns e he' with he' | he'
    · exact hx.chars?_newline_none he' hv hlater (hmore.1 e he) hnone
    · exact chars?_other_none he' hnone
  · have hsome := halone.2
    rcases hpatterns _ hmem with hmem | hmem
    · apply hx.chars?_newline_some hmem ?_ hsome
      rintro rfl
      cases hkind
    · simp only [otherPatterns, List.mem_cons, Prod.mk.injEq, List.not_mem_nil,
        or_false] at hmem
      rcases hmem with ⟨rfl, _⟩ | ⟨_, rfl⟩
      · cases hkind
      · rw [Plain.chars?_one] at hsome
        rw [List.cons_append, Plain.chars?_one]
        exact hsome

/-- Where a blank stands, the blanks are found. -/
theorem firstMatch?_blank
    (hx : x.Regular)
    {c : Char}
    (hc : CharSet.blank.contains c = true)
    (rest : List Char) :
    firstMatch? x.patterns (c :: rest) =
      some (.whitespace, runLength .blank rest + 1) := by
  rw [patterns, ← List.append_assoc, firstMatch?_append_eq_some_iff,
    firstMatch?_eq_none_iff]
  refine Or.inr ⟨?_, ?_⟩
  · intro e he
    apply Plain.chars?_eq_none_of_starts
    intro s hs
    exact CharSet.not_contains_of_lacks (hx.blank_starts e he s hs) (mem_blanks hc)
  · simp [firstMatch?, otherPatterns, Plain.run, Plain.chars?_one_many, hc]

end Lexicon.Regular

section Programs

variable {l : Language} {x : Lexicon} {kind : Kind} {v more later : List Char}

/-- What a programming language finds before the rest it finds before a line feed and
parts of the rest, a lone digit apart. -/
theorem findMatch_newline
    (hx : lexicon? l = some x)
    (hkind : kind.isFiltered = false)
    (hlone : kind = .unknown → ∀ c ∈ asciiDigits, v ≠ [c])
    (hlater : Plain.NoNewPart later more)
    (h : (builtin l).findMatch (v ++ more) = some (kind, v)) :
    (builtin l).findMatch (v ++ '\n' :: later) = some (kind, v) := by
  have hv := (findMatch_eq_some h).1
  have halone := findMatch_alone hlone h
  rw [findMatch_builtin_self_iff] at halone
  rw [findMatch_builtin_eq_some_iff] at h ⊢
  rw [patterns_of_lexicon? hx] at h halone ⊢
  exact (lexicon_regular (mem_lexicons hx)).firstMatch?_newline hv hkind hlater h halone

theorem not_blank_of_findMatch
    (hx : lexicon? l = some x)
    (hkind : kind.isFiltered = false)
    (h : (builtin l).findMatch (v ++ more) = some (kind, v)) :
    v.head?.any CharSet.blank.contains = false := by
  obtain ⟨c, w, rfl⟩ := List.exists_cons_of_ne_nil (findMatch_eq_some h).1
  rw [findMatch_builtin_eq_some_iff, patterns_of_lexicon? hx] at h
  cases hc : CharSet.blank.contains c with
  | false =>
      simpa using hc
  | true =>
      rw [List.cons_append,
        (lexicon_regular (mem_lexicons hx)).firstMatch?_blank hc] at h
      cases (Prod.mk.inj (Option.some.inj h)).1
      cases hkind

theorem Segmentation.not_blank_normal
    {source : List Char} {spans : List Span}
    (hx : lexicon? l = some x)
    (h : (builtin l).Segmentation source spans) :
    (Span.normal spans).head?.any CharSet.blank.contains = false := by
  cases hpieces : Span.pieces spans with
  | nil =>
      simp [Span.normal, hpieces]
  | cons p ps =>
      obtain ⟨kind, text⟩ := p
      have hmem : (kind, text) ∈ Span.pieces spans := by
        rw [hpieces]
        exact List.mem_cons_self
      obtain ⟨hkind, more, hfind⟩ := h.exists_findMatch hmem
      have hblank := not_blank_of_findMatch hx hkind hfind
      obtain ⟨c, w, rfl⟩ := List.exists_cons_of_ne_nil (findMatch_eq_some hfind).1
      rw [Span.normal, hpieces]
      cases ps with
      | nil =>
          simpa using hblank
      | cons q ps =>
          simpa [List.intercalate_cons_cons] using hblank

/-- A line feed before a text that starts with no blank is found as a blank of its own. -/
theorem findMatch_blank
    (hx : lexicon? l = some x)
    (hlater : later.head?.any CharSet.blank.contains = false) :
    (builtin l).findMatch (['\n'] ++ later) = some (.whitespace, ['\n']) := by
  have hrun : runLength .blank later = 0 := by
    cases later with
    | nil =>
        rfl
    | cons c later =>
        exact runLength_cons_of_not_contains later (by simpa using hlater)
  rw [findMatch_builtin_eq_some_iff, patterns_of_lexicon? hx, List.singleton_append,
    (lexicon_regular (mem_lexicons hx)).firstMatch?_blank (by decide), hrun]
  rfl

/-- The normal text of a program has a segmentation with the pieces of the program. -/
theorem Segmentation.exists_normal
    {source : List Char} {spans : List Span}
    (hx : lexicon? l = some x)
    (h : (builtin l).Segmentation source spans)
    (hlone : ∀ text, (.unknown, text) ∈ Span.pieces spans →
      ∀ c ∈ asciiDigits, text ≠ [c]) :
    ∃ others,
      (builtin l).Segmentation (Span.normal spans) others ∧
      Span.pieces others = Span.pieces spans := by
  induction h with
  | nil =>
      exact ⟨[], nil, rfl⟩
  | skipped hnone _ _ =>
      exact absurd hnone (findMatch_builtin_ne_none l _ _)
  | @taken kind text rest spans hfind hrest ih =>
      cases hkind : kind.isFiltered with
      | true =>
          have hpieces := Span.pieces_cons_of_filtered hkind text spans
          rw [Span.normal, hpieces]
          rw [hpieces] at hlone
          exact ih hlone
      | false =>
          have hpieces := Span.pieces_cons_of_emitted hkind text spans
          have hlone' : kind = .unknown → ∀ c ∈ asciiDigits, text ≠ [c] := by
            rintro rfl
            apply hlone
            rw [hpieces]
            exact List.mem_cons_self
          obtain ⟨others, hothers, hsame⟩ := ih (by
            intro t ht
            apply hlone
            rw [hpieces]
            exact List.mem_cons_of_mem _ ht)
          rw [Span.normal_cons_of_emitted hkind, hpieces]
          -- Behind the last token the normal text ends, without a line feed.
          by_cases hlast : Span.pieces spans = []
          · rw [if_pos hlast, hlast]
            exact ⟨[⟨some kind, text⟩], single (findMatch_alone hlone' hfind),
              Span.pieces_cons_of_emitted hkind text []⟩
          · have hnewline :=
              findMatch_newline hx hkind hlone' hrest.noNewPart_normal hfind
            have hblank := findMatch_blank hx (hrest.not_blank_normal hx)
            rw [if_neg hlast]
            refine ⟨⟨some kind, text⟩ :: ⟨some .whitespace, ['\n']⟩ :: others,
              taken hnewline (taken hblank hothers), ?_⟩
            rw [Span.pieces_cons_of_emitted hkind, Span.pieces_cons_of_filtered rfl, hsame]

end Programs

theorem map_value_of_pieces
    {settings settings' : ScanSettings}
    {spans others : List Span}
    (h : Span.pieces others = Span.pieces spans) :
    (Span.tokens settings' others).map (fun k => (k.kind, k.value))
      =
    (Span.tokens settings spans).map fun k => (k.kind, k.value) := by
  rw [← Span.tokens_map_pieces settings', ← Span.tokens_map_pieces settings] at h
  have hvalues := congrArg (List.map fun p => (p.1, String.ofList p.2)) h
  simpa [Function.comp_def] using hvalues

/--
Normalising a program keeps its tokens.  If no token of unknown kind is an ASCII digit,
scanning the values of a program's tokens, one on each line, gives tokens with the same
kinds and values in the same order.
-/
theorem scan_normal_keeps_tokens
    (l : Language)
    (hl : l ∈ [.c, .python, .java, .javaScript])
    (settings settings' : ScanSettings)
    (source : String)
    (hdigit : ∀ k ∈ ((builtin l).scan settings source).tokens,
      k.kind = .unknown → ∀ c : Char, c.isDigit = true → k.value ≠ String.singleton c) :
    let tokens := ((builtin l).scan settings source).tokens
    let normal := "\n".intercalate (tokens.map Token.value)
    ((builtin l).scan settings' normal).tokens.map (fun k => (k.kind, k.value))
      =
    tokens.map fun k => (k.kind, k.value) := by
  obtain ⟨x, hx⟩ := exists_lexicon hl
  obtain ⟨spans, hspans⟩ := Segmentation.exists_spans (builtin l) source.toList
  have htokens : ((builtin l).scan settings source).tokens =
      Span.tokens settings spans := by
    rw [scan_eq_account settings hspans]
  rw [htokens] at hdigit ⊢
  intro tokens normal
  have hlone : ∀ text, (.unknown, text) ∈ Span.pieces spans →
      ∀ c ∈ asciiDigits, text ≠ [c] := by
    intro text htext c hc hlone
    rw [← Span.tokens_map_pieces settings] at htext
    obtain ⟨k, hk, heq⟩ := List.mem_map.1 htext
    obtain ⟨hkind, hvalue⟩ := Prod.mk.inj heq
    apply hdigit k hk hkind c (isDigit_of_mem hc)
    apply String.toList_inj.1
    rw [hvalue, hlone, String.toList_singleton]
  obtain ⟨others, hothers, hpieces⟩ := hspans.exists_normal hx hlone
  have hnormal : normal.toList = Span.normal spans := by
    rw [Span.normal, ← Span.tokens_map_pieces settings, String.toList_intercalate,
      List.map_map, List.map_map]
    rfl
  rw [← hnormal] at hothers
  rw [scan_eq_account settings' hothers]
  exact map_value_of_pieces hpieces

/-- The opening of a comment that is never closed and a lone quotation mark stay what they
are, although the comment behind them is gone. -/
theorem scan_normal_keeps_openings :
    ((builtin .c).scan ⟨false, false⟩ "x\n/*\n\"\ny").tokens.map
      (fun k => (k.kind, k.value))
      =
    [(.identifier, "x"), (.operator, "/*"), (.unknown, "\""), (.identifier, "y")] := by
  have htokens :
      ((builtin .c).scan ⟨true, false⟩ "x /*\" // one\ny").tokens
        =
      [⟨.identifier, "x", 1, 0⟩, ⟨.operator, "/*", 1, 2⟩, ⟨.unknown, "\"", 1, 4⟩,
        ⟨.identifier, "y", 2, 13⟩] := by
    decide +kernel
  have hdigit : ∀ k ∈ ((builtin .c).scan ⟨true, false⟩ "x /*\" // one\ny").tokens,
      k.kind = .unknown → ∀ c : Char, c.isDigit = true → k.value ≠ String.singleton c := by
    intro k hk hkind c hc hvalue
    rw [htokens] at hk
    simp only [List.mem_cons, List.not_mem_nil, or_false] at hk
    rcases hk with rfl | rfl | rfl | rfl
    · cases hkind
    · cases hkind
    · have hquote := congrArg String.toList hvalue
      rw [String.toList_singleton] at hquote
      cases hquote
      cases hc
    · cases hkind
  have hsame := scan_normal_keeps_tokens .c (by decide) ⟨true, false⟩ ⟨false, false⟩
    "x /*\" // one\ny" hdigit
  rw [htokens] at hsame
  exact hsame

end Table
end TableLexer
