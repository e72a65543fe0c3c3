import TableLexer.Proofs.Builtin.Keywords

/-!
# Comments and operators

In the tables of C, Java and JavaScript the comments come before the operators, and an
operator is as long as it can be.  So a comment is found wherever a span starts in front
of one, and no operator starts in front of one.  But the characters that open a comment
are operator characters, and behind another such character they go on with the operator:
then the comment is not filtered (`scan_hides_comments`).

There is no other way past a comment.  Where one begins in a source, either a span of
comment kind starts, or a string, a comment or an operator started before and has not
ended (`scan_comments`).
-/

namespace TableLexer

namespace Span

/-- A place in joined spans lies in one of them, or at its start. -/
theorem exists_span_at
    {spans : List Span} {front back : List Char}
    (h : joined spans = front ++ back)
    (hback : back ≠ []) :
    ∃ before s after v w,
      spans = before ++ s :: after ∧
      s.text = v ++ w ∧
      w ≠ [] ∧
      front = joined before ++ v ∧
      back = w ++ joined after := by
  induction spans generalizing front with
  | nil =>
      exact absurd (List.append_eq_nil_iff.1 h.symm).2 hback
  | cons s spans ih =>
      have hbehind : ∀ more, front = s.text ++ more → joined spans = more ++ back →
          ∃ before t after v w,
            s :: spans = before ++ t :: after ∧
            t.text = v ++ w ∧
            w ≠ [] ∧
            front = joined before ++ v ∧
            back = w ++ joined after := by
        intro more hfront hjoined
        obtain ⟨before, t, after, v, w, rfl, ht, hw, rfl, hrest⟩ := ih hjoined
        exact ⟨s :: before, t, after, v, w, rfl, ht, hw, by simp [hfront], hrest⟩
      rw [joined_cons, List.append_eq_append_iff] at h
      rcases h with ⟨more, hfront, hjoined⟩ | ⟨w, htext, hrest⟩
      · exact hbehind more hfront hjoined
      · cases w with
        | nil =>
            rw [List.append_nil] at htext
            exact hbehind [] (by simp [htext]) hrest.symm
        | cons c w =>
            exact ⟨[], s, spans, front, c :: w, rfl, htext,
              List.cons_ne_nil c w, rfl, hrest⟩

/-- The place behind a text lies in the span behind others, and not at an end of it. -/
def Holds
    (before : List Span)
    (s : Span)
    (front : List Char) :
    Prop :=
  ∃ v w, s.text = v ++ w ∧ v ≠ [] ∧ w ≠ [] ∧ front = joined before ++ v

end Span

namespace Table

open Pattern

/-- A comment begins with the text: one up to the end of the line, or one that is
closed. -/
def OpensComment (text : List Char) : Prop :=
  ['/', '/'] <+: text ∨ ∃ rest, text = '/' :: '*' :: rest ∧ ['*', '/'] <:+: rest

def operatorChars : List Char :=
  "+-*/=<>!&|^%~?:".toList

theorem OpensComment.exists_slash
    {text : List Char}
    (h : OpensComment text) :
    ∃ rest, text = '/' :: rest := by
  rcases h with ⟨rest, rfl⟩ | ⟨rest, rfl, _⟩
  · exact ⟨_, rfl⟩
  · exact ⟨_, rfl⟩

/-- The pattern of the comments matches in front of comments only. -/
theorem slashComment_ne_none_iff
    {text : List Char} :
    slashComment.chars? text ≠ none ↔ OpensComment text := by
  constructor
  · intro h
    obtain ⟨n, hn⟩ := Option.ne_none_iff_exists'.1 h
    obtain ⟨w, rest, rfl, _, _, hw⟩ := Plain.exists_accepts_of_chars? hn
    rcases hw with ⟨_, u, rfl, hopening, _⟩ | hclosed
    · rw [Plain.accepts_ofText.1 hopening]
      exact Or.inl ⟨u ++ rest, by simp⟩
    · obtain ⟨u, rfl⟩ := Plain.accepts_enclosed.1 hclosed
      exact Or.inr ⟨u ++ ['*', '/'] ++ rest, by simp, u, rest, rfl⟩
  · rintro (⟨rest, rfl⟩ | ⟨_, rfl, u, rest, rfl⟩)
    · have hline : slashComment.Accepts none ['/', '/'] rest :=
        Or.inl ⟨['/', '/'], [], rfl, Plain.accepts_ofText.2 rfl, by simp [Plain.Accepts]⟩
      exact Plain.chars?_ne_none_of_accepts rfl hline
    · have hclosed : slashComment.Accepts none (['/', '*'] ++ (u ++ ['*', '/'])) rest :=
        Or.inr (Plain.accepts_enclosed.2 ⟨u, rfl⟩)
      simpa using Plain.chars?_ne_none_of_accepts rfl hclosed

/-- What the languages with comments behind slashes have in common. -/
structure Lexicon.Slashed (x : Lexicon) : Prop where
  comment_eq : x.comment = slashComment
  operators_eq : x.operators = cLexicon.operators
  first_slash : ¬ x.first.contains '/' = true
  string_starts : ∀ s ∈ (Plain.strings x.quotes).starts, ¬ s.contains '/' = true
  word_sets : ∀ e ∈ x.wordPatterns, ∀ s ∈ e.2.sets, ¬ s.contains '/' = true

theorem exists_slashed_lexicon
    {l : Language}
    (h : l ∈ [.c, .java, .javaScript]) :
    ∃ x, lexicon? l = some x ∧ x.Slashed := by
  cases l with
  | python | html | css =>
      simp at h
  | c | java | javaScript =>
      refine ⟨_, rfl, ?_⟩
      constructor <;> decide +kernel

theorem contains_operators_iff
    {c : Char} :
    cLexicon.operators.contains c = true ↔ c ∈ operatorChars := by
  constructor
  · intro h
    have hlt : ∀ d, cLexicon.operators.contains d = true → d.toNat < 128 :=
      fun _ => CharSet.lt_of_isAscii (by decide)
    simpa using CharSet.forall_of_ascii _ operatorChars.contains hlt (by decide) h
  · intro h
    have hall : operatorChars.all cLexicon.operators.contains = true := by
      decide
    exact List.all_eq_true.1 hall c h

namespace Lexicon.Slashed

variable {x : Lexicon} {kind : Kind} {v w more text : List Char}

/-- Where a comment begins, it is found. -/
theorem comment_of_opensComment
    (hx : x.Slashed)
    (hregular : x.Regular)
    (hopens : OpensComment text)
    {found : Kind × Nat}
    (h : firstMatch? x.patterns text = some found) :
    found.1 = .comment := by
  obtain ⟨n, hn⟩ := Option.ne_none_iff_exists'.1 (slashComment_ne_none_iff.2 hopens)
  obtain ⟨rest, rfl⟩ := hopens.exists_slash
  have hwords : firstMatch? x.wordPatterns ('/' :: rest) = none :=
    hregular.wordPatterns_none hx.first_slash (by decide) rest
  have hstring : (Plain.strings x.quotes).chars? ('/' :: rest) = none :=
    Plain.chars?_eq_none_of_starts hx.string_starts rest
  have hcomment : firstMatch? x.patterns ('/' :: rest) = some (.comment, n) := by
    refine firstMatch?_append_eq_some_iff.2 (Or.inr ⟨hwords, ?_⟩)
    simp [firstMatch?, signPatterns, hstring, hx.comment_eq, hn]
  rw [hcomment, Option.some.injEq] at h
  rw [← h]

/-- A slash behind the start of a match lies in a string, a comment or an operator. -/
theorem kind_of_inner_slash
    (hx : x.Slashed)
    (hv : v ≠ [])
    (h : firstMatch? x.patterns (v ++ '/' :: w ++ more) =
      some (kind, (v ++ '/' :: w).length)) :
    kind ∈ [.string, .comment, .operator] := by
  obtain ⟨p, hmem, hp⟩ := exists_mem_of_firstMatch? h
  rw [List.append_assoc, List.cons_append] at hp
  have hlong : ∀ s : CharSet, p ≠ .one s := by
    rintro s rfl
    obtain ⟨c, u, rfl⟩ := List.exists_cons_of_ne_nil hv
    rw [List.cons_append, Plain.chars?_one] at hp
    split at hp
    · simp at hp
    · cases hp
  have hsets : ¬ ∀ s ∈ p.sets, ¬ s.contains '/' = true := by
    intro hnot
    have htakes := List.mem_of_head? (Option.filter_eq_some_iff.1 hp).1
    have hle := Plain.le_length_of_mem_takes_append hnot htakes
    rw [List.length_append, List.length_cons] at hle
    omega
  rcases List.mem_append.1 hmem with hword | hsign
  · exact absurd (hx.word_sets _ hword) hsets
  · simp only [signPatterns, otherPatterns, List.cons_append, List.nil_append,
      List.mem_cons, Prod.mk.injEq, List.not_mem_nil, or_false] at hsign
    rcases hsign with ⟨rfl, _⟩ | ⟨rfl, _⟩ | ⟨rfl, _⟩ | ⟨_, hone⟩ | ⟨_, hblank⟩ | ⟨_, hone⟩
    · simp
    · simp
    · simp
    · exact absurd hone (hlong _)
    · rw [hblank] at hsets
      exact absurd (by decide) hsets
    · exact absurd hone (hlong _)

/-- An operator is the longest run of its characters. -/
theorem operator_run
    (hx : x.Slashed)
    (h : firstMatch? x.patterns (w ++ more) = some (.operator, w.length)) :
    (∀ c ∈ w, c ∈ operatorChars) ∧ (∀ c, more.head? = some c → c ∉ operatorChars) := by
  have hrun := chars?_of_firstMatch? (.operator, .run x.operators)
    (by simp [patterns, signPatterns]) h
  rw [hx.operators_eq] at hrun
  constructor
  · obtain ⟨u, rest, htext, hlen, _, hu⟩ := Plain.exists_accepts_of_chars? hrun
    obtain ⟨rfl, rfl⟩ := List.append_inj htext hlen.symm
    intro c hc
    exact contains_operators_iff.1 ((Plain.accepts_run.1 hu).2 c hc)
  · intro c hc
    have hnot := Plain.head?_not_contains_of_many hrun
    rw [hc, Option.any_some] at hnot
    rw [← contains_operators_iff, hnot]
    simp

end Lexicon.Slashed

namespace Segmentation

variable {l : Language} {x : Lexicon} {source : List Char}

/-- Where a comment begins, a comment is found unless something else goes on. -/
theorem comment_or_holds
    (hlexicon : lexicon? l = some x)
    (hx : x.Slashed)
    {spans : List Span}
    (h : (builtin l).Segmentation source spans)
    {front back : List Char}
    (hsource : source = front ++ back)
    (hopens : OpensComment back) :
    ∃ before s after kind,
      spans = before ++ s :: after ∧
      s.kind = some kind ∧
      (kind = .comment ∧ Span.joined before = front ∨
        kind ∈ [.string, .comment, .operator] ∧ Span.Holds before s front) := by
  have hregular := lexicon_regular (mem_lexicons hlexicon)
  obtain ⟨rest, hrest⟩ := hopens.exists_slash
  have hback : back ≠ [] := by
    rw [hrest]
    exact List.cons_ne_nil _ _
  have hjoined := h.joined_eq.trans hsource
  obtain ⟨before, ⟨kind, text⟩, after, v, w, rfl, rfl, hw, rfl, hmore⟩ :=
    Span.exists_span_at hjoined hback
  cases kind with
  | none =>
      have hne : v ++ w ≠ [] := h.text_ne_nil ⟨none, v ++ w⟩ (by simp)
      obtain ⟨d, u, htext⟩ := List.exists_cons_of_ne_nil hne
      have hnone := h.findMatch_eq
      rw [Span.joined_cons, Option.map_none, htext, List.cons_append] at hnone
      exact absurd hnone (findMatch_builtin_ne_none l d _)
  | some kind =>
      have hfirst := h.firstMatch?_eq hlexicon
      refine ⟨before, ⟨some kind, v ++ w⟩, after, kind, rfl, rfl, ?_⟩
      by_cases hv : v = []
      · -- The comment begins with the span.
        subst hv
        rw [List.nil_append, ← hmore] at hfirst
        left
        exact ⟨hx.comment_of_opensComment hregular hopens hfirst, by simp⟩
      · right
        refine ⟨?_, v, w, rfl, hv, hw, rfl⟩
        obtain ⟨c, u, rfl⟩ := List.exists_cons_of_ne_nil hw
        rw [hrest, List.cons_append, List.cons.injEq] at hmore
        obtain ⟨rfl, _⟩ := hmore
        exact hx.kind_of_inner_slash hv hfirst

end Segmentation

/--
An operator is a whole run of operator characters, and no comment begins where it does.
Where a comment begins in the source, it is found and filtered, or else the place lies
behind the start of a string, a comment or an operator that goes on.
-/
theorem scan_comments
    {l : Language}
    (hl : l ∈ [.c, .java, .javaScript])
    (settings : ScanSettings)
    (source : String) :
    ∃ spans : List Span,
      (builtin l).Segmentation source.toList spans ∧
      ((builtin l).scan settings source).tokens = Span.tokens settings spans ∧
      (∀ k ∈ ((builtin l).scan settings source).tokens,
        k.kind = .operator →
        ∃ before after : String,
          source = before ++ k.value ++ after ∧
          before.utf8ByteSize = k.position ∧
          (∀ c ∈ k.value.toList, c ∈ operatorChars) ∧
          (∀ c, after.toList.head? = some c → c ∉ operatorChars) ∧
          ¬ OpensComment (k.value ++ after).toList) ∧
      (∀ front back : String,
        source = front ++ back →
        OpensComment back.toList →
        ∃ before s after kind,
          spans = before ++ s :: after ∧
          s.kind = some kind ∧
          (kind = .comment ∧ Span.joined before = front.toList ∨
            kind ∈ [.string, .comment, .operator] ∧
              Span.Holds before s front.toList)) := by
  obtain ⟨x, hlexicon, hx⟩ := exists_slashed_lexicon hl
  have hregular := lexicon_regular (mem_lexicons hlexicon)
  obtain ⟨spans, hspans⟩ := Segmentation.exists_spans (builtin l) source.toList
  have htokens : ((builtin l).scan settings source).tokens =
      Span.tokens settings spans := by
    rw [scan_eq_account settings hspans]
  refine ⟨spans, hspans, htokens, ?_, ?_⟩
  · intro k hk hkind
    rw [htokens] at hk
    obtain ⟨before, after, rfl, hsource, hposition⟩ := hspans.exists_split hk
    rw [hkind] at hspans
    have hfirst := hspans.firstMatch?_eq hlexicon
    obtain ⟨hinside, hbehind⟩ := hx.operator_run hfirst
    refine ⟨_, _, hsource, hposition, hinside, ?_, ?_⟩
    · rw [String.toList_ofList]
      exact hbehind
    · intro hopens
      rw [String.toList_append, String.toList_ofList] at hopens
      cases hx.comment_of_opensComment hregular hopens hfirst
  · intro front back hsource hopens
    refine hspans.comment_or_holds hlexicon hx ?_ hopens
    rw [hsource, String.toList_append]

/-- The opening of a comment goes on with the operator in front of it. -/
theorem scan_slashes_behind_equals :
    ((builtin .c).scan ⟨false, false⟩ "a=//b").tokens
      =
    [⟨.identifier, "a", 1, 0⟩, ⟨.operator, "=//", 1, 1⟩, ⟨.identifier, "b", 1, 4⟩] := by
  have hspans : (builtin .c).Segmentation "a=//b".toList
      [⟨some .identifier, ['a']⟩, ⟨some .operator, ['=', '/', '/']⟩,
       ⟨some .identifier, ['b']⟩] :=
    Segmentation.of_found rfl (by decide +kernel)
  rw [scan_eq_account ⟨false, false⟩ hspans]
  rfl

theorem scan_comments_behind_equals :
    let tokens := ((builtin .c).scan ⟨false, false⟩ "a=//b").tokens
    Language.c ∈ [.c, .java, .javaScript] ∧
      ⟨.operator, "=//", 1, 1⟩ ∈ tokens ∧
      (∃ before after : String,
        "a=//b" = before ++ "=//" ++ after ∧
        before.utf8ByteSize = 1 ∧
        (∀ c ∈ "=//".toList, c ∈ operatorChars) ∧
        (∀ c, after.toList.head? = some c → c ∉ operatorChars) ∧
        ¬ OpensComment ("=//" ++ after).toList) ∧
      OpensComment "//b".toList ∧
      ∃ spans before s after kind,
        (builtin .c).Segmentation "a=//b".toList spans ∧
        tokens = Span.tokens ⟨false, false⟩ spans ∧
        spans = before ++ s :: after ∧
        s.kind = some kind ∧
        (kind = .comment ∧ Span.joined before = "a=".toList ∨
          kind ∈ [.string, .comment, .operator] ∧ Span.Holds before s "a=".toList) := by
  intro tokens
  have hl : Language.c ∈ [.c, .java, .javaScript] := by decide
  have hk : ⟨.operator, "=//", 1, 1⟩ ∈ tokens := by
    simp [tokens, scan_slashes_behind_equals]
  have hopens : OpensComment "//b".toList := Or.inl ⟨['b'], rfl⟩
  obtain ⟨spans, hspans, htokens, hoperators, hplaces⟩ :=
    scan_comments hl ⟨false, false⟩ "a=//b"
  obtain ⟨before, s, after, kind, hplace⟩ := hplaces "a=" "//b" rfl hopens
  exact ⟨hl, hk, hoperators _ hk rfl, hopens, spans, before, s, after, kind,
    hspans, htokens, hplace⟩

/-- No comment begins within the token. -/
def HoldsNoComment
    (source : String)
    (k : Token) :
    Prop :=
  ∀ before after : String,
    source = before ++ k.value ++ after →
    before.utf8ByteSize = k.position →
    ∀ v w, k.value.toList = v ++ w → 2 ≤ w.length → ¬ OpensComment (w ++ after.toList)

/-- Behind an operator character, a comment to the end of the line and one that is closed
are taken for operators. -/
theorem scan_hides_comments :
    (∃ k ∈ ((builtin .c).scan ⟨false, false⟩ "a=//b").tokens,
      k.kind = .operator ∧ ¬ HoldsNoComment "a=//b" k) ∧
    (∃ k ∈ ((builtin .javaScript).scan ⟨false, false⟩ "a=/*b*/").tokens,
      k.kind = .operator ∧ ¬ HoldsNoComment "a=/*b*/" k) := by
  constructor
  · refine ⟨⟨.operator, "=//", 1, 1⟩, by simp [scan_slashes_behind_equals], rfl, ?_⟩
    intro h
    exact h "a" "b" rfl rfl ['='] ['/', '/'] rfl (by decide) (Or.inl ⟨['b'], rfl⟩)
  · have hspans : (builtin .javaScript).Segmentation "a=/*b*/".toList
        [⟨some .identifier, ['a']⟩, ⟨some .operator, ['=', '/', '*']⟩,
         ⟨some .identifier, ['b']⟩, ⟨some .operator, ['*', '/']⟩] :=
      Segmentation.of_found rfl (by decide +kernel)
    refine ⟨⟨.operator, "=/*", 1, 1⟩, ?_, rfl, ?_⟩
    · rw [scan_eq_account ⟨false, false⟩ hspans]
      decide
    · intro h
      exact h "a" "b*/" rfl rfl ['='] ['/', '*'] rfl (by decide)
        (Or.inr ⟨['b', '*', '/'], rfl, ['b'], [], rfl⟩)

end Table
end TableLexer
