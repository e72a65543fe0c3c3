import Mathlib.Data.List.Infix
import Mathlib.Data.List.Nodup
import TableLexer.Proofs.Builtin.Lexicon

/-!
# Texts before a line feed

The text of a match stands before the rest of a source.  Here another text stands
behind it, after a line feed, and the match must stay.  Words, operators and delimiters
hold no line feed, so it cuts the text off for them.  A string that is closed stays
closed; but a quotation mark that opens no string could open one now, and so could a
comment opener open a comment.  Neither happens if what closes them stood in the rest
before: this is the condition on the other text, that none of its parts is new.
-/

namespace TableLexer

section Parts

variable {α : Type} {x : α} {part xs ys : List α}

/-- A beginning without the separator ends before it. -/
theorem prefix_of_prefix_append_cons
    (hx : x ∉ part)
    (h : part <+: xs ++ x :: ys) :
    part <+: xs := by
  induction xs generalizing part with
  | nil =>
      rcases List.prefix_cons_iff.1 h with rfl | ⟨rest, rfl, _⟩
      · exact List.nil_prefix
      · exact absurd List.mem_cons_self hx
  | cons a xs ih =>
      rw [List.cons_append] at h
      rcases List.prefix_cons_iff.1 h with rfl | ⟨rest, rfl, hrest⟩
      · exact List.nil_prefix
      · rw [List.cons_prefix_cons]
        exact ⟨rfl, ih (fun hmem => hx (List.mem_cons_of_mem _ hmem)) hrest⟩

/-- A part without the separator lies before it or behind it. -/
theorem infix_of_infix_append_cons
    (hx : x ∉ part)
    (h : part <:+: xs ++ x :: ys) :
    part <:+: xs ∨ part <:+: ys := by
  induction xs with
  | nil =>
      rcases List.infix_cons_iff.1 h with hprefix | hinfix
      · exact Or.inl (prefix_of_prefix_append_cons hx hprefix).isInfix
      · exact Or.inr hinfix
  | cons a xs ih =>
      rcases List.infix_cons_iff.1 h with hprefix | hinfix
      · exact Or.inl (@prefix_of_prefix_append_cons _ x part (a :: xs) ys hx
          hprefix).isInfix
      · exact (ih hinfix).imp_left List.infix_cons

/-- A part of joined texts without the separator lies in one of the texts. -/
theorem exists_infix_of_infix_intercalate
    {texts : List (List α)}
    (hx : x ∉ part)
    (hne : part ≠ [])
    (h : part <:+: [x].intercalate texts) :
    ∃ text ∈ texts, part <:+: text := by
  induction texts with
  | nil =>
      rw [List.intercalate_nil] at h
      exact absurd (List.infix_nil.1 h) hne
  | cons text texts ih =>
      cases texts with
      | nil =>
          rw [List.intercalate_singleton] at h
          exact ⟨text, List.mem_singleton.2 rfl, h⟩
      | cons next texts =>
          rw [List.intercalate_cons_cons, List.append_assoc, List.singleton_append] at h
          rcases infix_of_infix_append_cons hx h with htext | hrest
          · exact ⟨text, List.mem_cons_self, htext⟩
          · obtain ⟨found, hfound, hpart⟩ := ih hrest
            exact ⟨found, List.mem_cons_of_mem _ hfound, hpart⟩

theorem append_cons_left_inj
    {u v rest more : List α}
    (hu : x ∉ u)
    (hv : x ∉ v)
    (h : u ++ x :: rest = v ++ x :: more) :
    u = v := by
  apply List.infix_antisymm
  · apply List.IsPrefix.isInfix
    apply prefix_of_prefix_append_cons hu
    rw [← h]
    exact List.prefix_append u _
  · apply List.IsPrefix.isInfix
    apply prefix_of_prefix_append_cons hv
    rw [h]
    exact List.prefix_append v _

end Parts

namespace Pattern

namespace CharSet

theorem contains_single
    {c d : Char} :
    (single c).contains d = true ↔ d = c := by
  rw [← Char.toNat_inj]
  simp only [single, range, contains, covers]
  split <;> simp <;> omega

/-- Surrogates are no characters. -/
theorem toNat_valid
    (c : Char) :
    c.toNat < 0xD800 ∨ 0xDFFF < c.toNat ∧ c.toNat ≤ lastCode := by
  have hvalid := c.valid
  simp only [UInt32.isValidChar, Nat.isValidChar] at hvalid
  simp only [Char.toNat, lastCode]
  omega

theorem contains_compl_single
    {c d : Char} :
    (single c).compl.contains d = true ↔ d ≠ c := by
  have hc := toNat_valid c
  have hd := toNat_valid d
  rw [ne_eq, ← Char.toNat_inj]
  simp only [single, range, compl, contains, gaps, codeAfter, codeBefore, lastCode] at *
  split_ifs <;> simp [covers] <;> omega

end CharSet

namespace Plain

variable {before : Option Char} {w rest : List Char}

theorem accepts_anyOf
    {ps : List Plain} :
    (anyOf ps).Accepts before w rest ↔ ∃ p ∈ ps, p.Accepts before w rest := by
  induction ps with
  | nil =>
      simp [anyOf, Accepts]
  | cons p ps ih =>
      cases ps with
      | nil =>
          simp [anyOf]
      | cons q ps =>
          rw [anyOf, Accepts, ih]
          simp only [List.mem_cons, exists_eq_or_imp]

theorem accepts_ofText
    {text : List Char} :
    (ofText text).Accepts before w rest ↔ w = text := by
  induction text generalizing before w with
  | nil =>
      rfl
  | cons c text ih =>
      cases text with
      | nil =>
          simp [ofText, Accepts, CharSet.contains_single]
      | cons d text =>
          rw [ofText, Accepts]
          simp only [ih, Accepts, CharSet.contains_single]
          constructor
          · rintro ⟨u, v, rfl, ⟨e, rfl, rfl⟩, rfl⟩
            rfl
          · rintro rfl
            exact ⟨[c], d :: text, rfl, ⟨c, rfl, rfl⟩, rfl⟩

/-- A quoted text is closed by the first mark behind its opening. -/
theorem accepts_quoted
    {q : Char} :
    (quoted q).Accepts before w rest ↔ ∃ u, w = q :: (u ++ [q]) ∧ q ∉ u := by
  simp only [quoted, Accepts, CharSet.contains_single, CharSet.contains_compl_single]
  constructor
  · rintro ⟨_, _, rfl, ⟨_, rfl, rfl⟩, u, _, rfl, hu, _, rfl, rfl⟩
    exact ⟨u, rfl, fun hq => hu _ hq rfl⟩
  · rintro ⟨u, rfl, hq⟩
    refine ⟨[q], u ++ [q], rfl, ⟨q, rfl, rfl⟩, u, [q], rfl, ?_, q, rfl, rfl⟩
    rintro c hc rfl
    exact hq hc

theorem accepts_enclosed
    {opening closing : List Char} :
    (enclosed opening closing).Accepts before w rest ↔
      ∃ u, w = opening ++ (u ++ closing) := by
  simp only [enclosed, Accepts, accepts_ofText]
  constructor
  · rintro ⟨_, _, rfl, rfl, u, _, rfl, _, rfl⟩
    exact ⟨u, rfl⟩
  · rintro ⟨u, rfl⟩
    exact ⟨opening, u ++ closing, rfl, rfl, u, closing, rfl,
      fun c _ => CharSet.contains_all c, rfl⟩

theorem accepts_strings
    {quotes : List Char} :
    (strings quotes).Accepts before w rest
      ↔
    ∃ q ∈ quotes, ∃ u, w = q :: (u ++ [q]) ∧ q ∉ u := by
  simp [strings, accepts_anyOf, accepts_quoted]

theorem accepts_run
    {s : CharSet} :
    (run s).Accepts before w rest ↔ w ≠ [] ∧ ∀ c ∈ w, s.contains c = true := by
  cases w with
  | nil =>
      simp [run, Accepts]
  | cons c w =>
      simp only [run, Accepts, ne_eq, reduceCtorEq, not_false_eq_true, true_and,
        List.forall_mem_cons]
      constructor
      · rintro ⟨_, v, heq, ⟨d, rfl, hd⟩, hv⟩
        cases heq
        exact ⟨hd, hv⟩
      · rintro ⟨hc, hw⟩
        exact ⟨[c], w, rfl, ⟨c, rfl, hc⟩, hw⟩

theorem exists_word_of_accepts
    {words : List String} {before : Option Char} {w rest : List Char}
    (h : (wholeWord words).Accepts before w rest) :
    ∃ word ∈ words, word.toList = w := by
  obtain ⟨_, _, rfl, ⟨rfl, _⟩, u, _, rfl, hu, rfl, _⟩ := h
  obtain ⟨p, hp, hw⟩ := accepts_anyOf.1 hu
  obtain ⟨word, hword, rfl⟩ := List.mem_map.1 hp
  exact ⟨word, hword, by simp [accepts_ofText.1 hw]⟩

/-- Every part of a text without a line feed is a part of another text. -/
def NoNewPart (later more : List Char) : Prop :=
  ∀ part, '\n' ∉ part → part ≠ [] → part <:+: later → part <:+: more

/-- If the pattern accepts a beginning of a text, a line feed and another text without
new parts, it did so before. -/
def Steady (p : Plain) : Prop :=
  ∀ v more later, NoNewPart later more →
    (∃ w rest, v ++ '\n' :: later = w ++ rest ∧ p.Accepts none w rest) →
    v = [] ∨ ∃ w rest, v ++ more = w ++ rest ∧ p.Accepts none w rest

theorem Steady.chars?_eq_none
    {p : Plain} {v more later : List Char}
    (hp : p.Steady)
    (hnullable : p.nullable = false)
    (hv : v ≠ [])
    (hlater : NoNewPart later more)
    (h : p.chars? (v ++ more) = none) :
    p.chars? (v ++ '\n' :: later) = none := by
  cases hn : p.chars? (v ++ '\n' :: later) with
  | none =>
      rfl
  | some n =>
      obtain ⟨w, rest, htext, _, _, hw⟩ := exists_accepts_of_chars? hn
      rcases hp v more later hlater ⟨w, rest, htext, hw⟩ with
        hnil | ⟨w', rest', htext', hw'⟩
      · exact absurd hnil hv
      · rw [htext'] at h
        exact absurd h (chars?_ne_none_of_accepts hnullable hw')

theorem Steady.alt
    {p q : Plain}
    (hp : p.Steady)
    (hq : q.Steady) :
    (alt p q).Steady := by
  rintro v more later hlater ⟨w, rest, htext, hw | hw⟩
  · refine (hp v more later hlater ⟨w, rest, htext, hw⟩).imp_right ?_
    rintro ⟨w', rest', htext', hw'⟩
    exact ⟨w', rest', htext', Or.inl hw'⟩
  · refine (hq v more later hlater ⟨w, rest, htext, hw⟩).imp_right ?_
    rintro ⟨w', rest', htext', hw'⟩
    exact ⟨w', rest', htext', Or.inr hw'⟩

/-- What opens a text without a line feed opens it before. -/
theorem steady_opened
    {opening : List Char} {s : CharSet} {greedy : Bool}
    (hopening : '\n' ∉ opening) :
    (seq (ofText opening) (many s greedy)).Steady := by
  rintro v more later _ ⟨_, rest, htext, _, u, rfl, hopen, _⟩
  rw [accepts_ofText.1 hopen] at htext
  right
  have hprefix : opening <+: v ++ '\n' :: later := by
    rw [htext, List.append_assoc]
    exact List.prefix_append _ _
  obtain ⟨v, rfl⟩ := prefix_of_prefix_append_cons hopening hprefix
  refine ⟨opening, v ++ more, List.append_assoc _ _ _, opening, [], ?_, ?_, ?_⟩
  · exact (List.append_nil _).symm
  · exact accepts_ofText.2 rfl
  · intro c hc
    cases hc

/-- What is closed behind a line feed by an old part was closed before. -/
theorem steady_enclosed
    {opening closing : List Char}
    (hopening : '\n' ∉ opening)
    (hclosing : '\n' ∉ closing)
    (hne : closing ≠ []) :
    (enclosed opening closing).Steady := by
  rintro v more later hlater ⟨w, rest, htext, hw⟩
  obtain ⟨u, rfl⟩ := accepts_enclosed.1 hw
  right
  have hprefix : opening <+: v ++ '\n' :: later := by
    rw [htext, List.append_assoc]
    exact List.prefix_append _ _
  obtain ⟨v, rfl⟩ := prefix_of_prefix_append_cons hopening hprefix
  have hinfix : closing <:+: v ++ '\n' :: later := by
    refine ⟨u, rest, ?_⟩
    simpa using htext.symm
  have hold : closing <:+: v ++ more := by
    rcases infix_of_infix_append_cons hclosing hinfix with h | h
    · exact List.infix_append_of_infix_left h
    · exact List.infix_append_of_infix_right (hlater closing hclosing hne h)
  obtain ⟨u', rest', hsplit⟩ := hold
  refine ⟨opening ++ (u' ++ closing), rest', ?_, accepts_enclosed.2 ⟨u', rfl⟩⟩
  rw [List.append_assoc, ← hsplit]
  simp

/-- A string that is closed behind a line feed by an old part was closed before. -/
theorem steady_strings
    {quotes : List Char}
    (hquotes : '\n' ∉ quotes) :
    (strings quotes).Steady := by
  rintro v more later hlater ⟨w, rest, htext, hw⟩
  obtain ⟨q, hq, u, rfl, _⟩ := accepts_strings.1 hw
  have hnewline : q ≠ '\n' := by
    rintro rfl
    exact hquotes hq
  cases v with
  | nil =>
      exact Or.inl rfl
  | cons c v =>
      right
      simp only [List.cons_append, List.append_assoc, List.cons.injEq] at htext
      obtain ⟨rfl, hrest⟩ := htext
      have hmem : c ∈ v ++ '\n' :: later := by
        rw [hrest]
        simp
      -- The closing mark stands in the text, or in a part that the rest had too.
      have hold : c ∈ v ++ more := by
        rcases List.mem_append.1 hmem with hv | hlate
        · exact List.mem_append_left _ hv
        · apply List.mem_append_right
          have hlate' := (List.mem_cons.1 hlate).resolve_left hnewline
          have hpart := hlater [c] (by simpa using hnewline.symm) (by simp)
            ((List.singleton_infix_iff c later).2 hlate')
          exact (List.singleton_infix_iff c more).1 hpart
      obtain ⟨u', rest', hsplit, hu'⟩ := List.eq_append_cons_of_mem hold
      refine ⟨c :: (u' ++ [c]), rest', ?_, accepts_strings.2 ⟨c, hq, u', rfl, hu'⟩⟩
      simp [hsplit]

/-- A string that is closed ends where it ends, whatever stands behind it. -/
theorem strings_chars?_append
    {quotes v more : List Char}
    (hnullable : (strings quotes).nullable = false)
    (h : (strings quotes).chars? (v ++ more) = some v.length)
    (later : List Char) :
    (strings quotes).chars? (v ++ later) = some v.length := by
  obtain ⟨w, rest, htext, hlen, _, hw⟩ := exists_accepts_of_chars? h
  obtain ⟨rfl, rfl⟩ := List.append_inj htext hlen.symm
  have hclosed := accepts_strings.1 hw
  cases hn : (strings quotes).chars? (v ++ later) with
  | none =>
      have haccepts : (strings quotes).Accepts none v later := accepts_strings.2 hclosed
      exact absurd hn (chars?_ne_none_of_accepts hnullable haccepts)
  | some n =>
      obtain ⟨q, _, u, rfl, hu⟩ := hclosed
      obtain ⟨w', rest', htext', rfl, _, hw'⟩ := exists_accepts_of_chars? hn
      obtain ⟨q', _, u', rfl, hu'⟩ := accepts_strings.1 hw'
      simp only [List.cons_append, List.append_assoc, List.cons.injEq] at htext'
      obtain ⟨rfl, hrest⟩ := htext'
      rw [append_cons_left_inj hu hu' hrest]

end Plain
end Pattern

namespace Table

open Pattern

namespace Lexicon.Regular

variable {x : Lexicon} {e : Kind × Plain} {kind : Kind} {v more later : List Char}

/-- A line feed cuts a text off for all words and signs but strings and comments. -/
theorem chars?_newline
    (hx : x.Regular)
    (he : e ∈ x.wordPatterns ++ x.signPatterns)
    (hstring : e.1 ≠ .string)
    (hcomment : e.1 ≠ .comment) :
    e.2.chars? (v ++ '\n' :: later) = e.2.chars? v := by
  apply Plain.chars?_append_cons (hx.newline_sets e he hstring hcomment)
  rcases List.mem_append.1 he with he | he
  · exact Plain.blindTo_of_edges (hx.word_looks e he) (by decide)
  · exact Plain.blindTo_of_looks_eq_nil (hx.sign_looks e he) _

theorem strings_take
    (hx : x.Regular) :
    (Plain.strings x.quotes).nullable = false :=
  hx.signs_take (.string, .strings x.quotes) (by simp [signPatterns])

theorem comment_takes
    (hx : x.Regular) :
    x.comment.nullable = false :=
  hx.signs_take (.comment, x.comment) (by simp [signPatterns])

theorem steady_comment
    (hx : x.Regular) :
    x.comment.Steady := by
  rcases hx.comment_form with h | h
  · rw [h]
    refine Plain.Steady.alt (Plain.steady_opened ?_) (Plain.steady_enclosed ?_ ?_ ?_) <;>
      decide
  · rw [h]
    exact Plain.steady_opened (by decide)

/-- A word or a sign that matched neither before the rest nor alone does not match before
a line feed. -/
theorem chars?_newline_none
    (hx : x.Regular)
    (he : e ∈ x.wordPatterns ++ x.signPatterns)
    (hv : v ≠ [])
    (hlater : Plain.NoNewPart later more)
    (hmore : e.2.chars? (v ++ more) = none)
    (halone : e.2.chars? v = none) :
    e.2.chars? (v ++ '\n' :: later) = none := by
  by_cases hstring : e.1 = .string
  · have hsign : e = (.string, .strings x.quotes) := by
      simpa [wordPatterns, signPatterns, Prod.ext_iff, hstring] using he
    subst hsign
    exact (Plain.steady_strings hx.newline_quotes).chars?_eq_none hx.strings_take hv
      hlater hmore
  · by_cases hcomment : e.1 = .comment
    · have hsign : e = (.comment, x.comment) := by
        simpa [wordPatterns, signPatterns, Prod.ext_iff, hcomment] using he
      subst hsign
      exact hx.steady_comment.chars?_eq_none hx.comment_takes hv hlater hmore
    · rw [hx.chars?_newline he hstring hcomment]
      exact halone

/-- A word or a sign that is no comment and matches a text alone and before the rest
matches it before a line feed. -/
theorem chars?_newline_some
    (hx : x.Regular)
    (he : e ∈ x.wordPatterns ++ x.signPatterns)
    (hcomment : e.1 ≠ .comment)
    (halone : e.2.chars? v = some v.length) :
    e.2.chars? (v ++ '\n' :: later) = some v.length := by
  by_cases hstring : e.1 = .string
  · have hsign : e = (.string, .strings x.quotes) := by
      simpa [wordPatterns, signPatterns, Prod.ext_iff, hstring] using he
    subst hsign
    apply Plain.strings_chars?_append hx.strings_take
    rw [List.append_nil]
    exact halone
  · rw [hx.chars?_newline he hstring hcomment]
    exact halone

theorem kinds_nodup
    (x : Lexicon) :
    (x.patterns.map Prod.fst).Nodup := by
  have hkinds :
      x.patterns.map Prod.fst
        =
      [.keyword, .identifier, .number, .string, .comment, .operator, .delimiter,
        .whitespace, .unknown] := by
    rfl
  rw [hkinds]
  decide

end Lexicon.Regular

/-- The kind of a match tells the pattern. -/
theorem Lexicon.chars?_of_firstMatch?
    {x : Lexicon}
    (e : Kind × Plain)
    (he : e ∈ x.patterns)
    {text : List Char} {n : Nat}
    (h : firstMatch? x.patterns text = some (e.1, n)) :
    e.2.chars? text = some n := by
  obtain ⟨p, hmem, hp⟩ := exists_mem_of_firstMatch? h
  have heq : (e.1, p) = e := List.inj_on_of_nodup_map (Regular.kinds_nodup x) hmem he rfl
  rwa [← heq]

end Table
end TableLexer
