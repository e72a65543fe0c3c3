import TableLexer.Proofs.Builtin.Lexicon
import TableLexer.Proofs.Scan.Tokens

/-!
# Tokens on their own

A token of a built-in table is found again when its text is all that there is.  Cutting
a source behind a match changes the answer of a pattern only if the pattern asks for
the edge of a word at the cut.  No pattern for markup or style sheets does.  In the
lexicons the words do; but if a character of a word follows, the match was no word, so
its text starts neither like an identifier nor, unless it is a lone digit, like a
number.
-/

namespace TableLexer
namespace Table

open Pattern

/-- The first match of a text is that of another one, if the patterns that fail there
fail here and the match is one here too. -/
theorem firstMatch?_transfer
    {ps : List (Kind × Plain)}
    {text text' : List Char}
    {kind : Kind} {n : Nat}
    (h : firstMatch? ps text = some (kind, n))
    (hnone : ∀ e ∈ ps, e.2.chars? text = none → e.2.chars? text' = none)
    (hsome : ∀ e ∈ ps, e.1 = kind → e.2.chars? text = some n → e.2.chars? text' = some n) :
    firstMatch? ps text' = some (kind, n) := by
  obtain ⟨earlier, e, later, rfl, he, hearlier⟩ := List.findSome?_eq_some_iff.1 h
  obtain ⟨m, hm, heq⟩ := Option.map_eq_some_iff.1 he
  obtain ⟨hkind, rfl⟩ := Prod.mk.inj heq
  refine List.findSome?_eq_some_iff.2 ⟨earlier, e, later, rfl, ?_, ?_⟩
  · have hm' := hsome e (by simp) hkind hm
    simp [hm', hkind]
  · intro d hd
    have hnone' := Option.map_eq_none_iff.1 (hearlier d hd)
    rw [Option.map_eq_none_iff]
    exact hnone d (List.mem_append_left _ hd) hnone'

/-- Patterns that ask nothing at the cut find the same match in the cut text. -/
theorem firstMatch?_cut
    {ps : List (Kind × Plain)}
    {v more : List Char} {kind : Kind}
    (hblind : ∀ e ∈ ps, e.2.BlindTo more.head?)
    (h : firstMatch? ps (v ++ more) = some (kind, v.length)) :
    firstMatch? ps v = some (kind, v.length) := by
  apply firstMatch?_transfer h
  · intro e he hp
    exact Plain.chars?_of_append_none (hblind e he) hp
  · intro e he _ hp
    exact Plain.chars?_of_append (hblind e he) hp (Nat.le_refl _)

namespace Lexicon.Regular

variable {x : Lexicon} {kind : Kind} {v more : List Char}

theorem looks_eq_nil
    (hx : x.Regular) :
    ∀ e ∈ x.signPatterns ++ otherPatterns, e.2.looks = [] := by
  have hothers : ∀ e ∈ otherPatterns, e.2.looks = [] := by
    decide
  intro e he
  rcases List.mem_append.1 he with he | he
  · exact hx.sign_looks e he
  · exact hothers e he

theorem not_word_of_identifier
    (hx : x.Regular)
    {c : Char}
    (h : (Plain.seq (.one x.first) (.many x.inner true)).chars? (c :: (v ++ more))
      = some (v.length + 1)) :
    more.head?.any Text.isAsciiWord = false := by
  rw [Plain.chars?_one_many] at h
  split at h
  · have hlen : runLength x.inner (v ++ more) = v.length := by simpa using h
    have hinner := head?_not_contains_of_runLength hlen
    cases more with
    | nil =>
        rfl
    | cons d more =>
        cases hd : Text.isAsciiWord d with
        | false =>
            simpa using hd
        | true =>
            have hword := CharSet.contains_of_isAsciiWord hd
            have hcontains := CharSet.contains_of_within hx.inner_word hword
            simp [hcontains] at hinner
  · cases h

/-- No word is followed by a character of a word. -/
theorem not_word_of_wordPatterns
    (hx : x.Regular)
    {c : Char}
    (h : firstMatch? x.wordPatterns (c :: v ++ more) = some (kind, (c :: v).length)) :
    more.head?.any Text.isAsciiWord = false := by
  obtain ⟨p, hmem, hp⟩ := exists_mem_of_firstMatch? h
  simp only [wordPatterns, List.mem_cons, Prod.mk.injEq, List.not_mem_nil,
    or_false] at hmem
  rcases hmem with ⟨_, rfl⟩ | ⟨_, rfl⟩ | ⟨_, rfl⟩
  · exact Plain.head?_not_word_of_closes rfl hx.keyword_ends hp
  · exact hx.not_word_of_identifier hp
  · refine Plain.head?_not_word_of_closes ?_ hx.number_ends hp
    exact hx.number_closes

/-- A text that starts neither like an identifier nor with a digit holds no word. -/
theorem wordPatterns_none
    (hx : x.Regular)
    {c : Char}
    (hfirst : ¬ x.first.contains c = true)
    (hdigit : c ∉ asciiDigits)
    (rest : List Char) :
    firstMatch? x.wordPatterns (c :: rest) = none := by
  have hkeyword : (Plain.wholeWord x.keywords).chars? (c :: rest) = none := by
    apply Plain.chars?_eq_none_of_starts
    intro s hs hc
    exact hfirst (CharSet.contains_of_within (hx.keyword_starts s hs) hc)
  have hidentifier : (Plain.seq (.one x.first) (.many x.inner true)).chars? (c :: rest) =
      none := by
    rw [Plain.chars?_one_many, if_neg hfirst]
  have hnumber : (Plain.number x.numberEnd).chars? (c :: rest) = none := by
    apply Plain.chars?_eq_none_of_starts
    intro s hs hc
    have hs : s = .asciiDigit := by
      simpa [Plain.number, Plain.wordEdge, Plain.digits, Plain.run, Plain.starts,
        Plain.nullable] using hs
    rw [hs] at hc
    exact hdigit (mem_asciiDigits hc)
  simp [firstMatch?, wordPatterns, hkeyword, hidentifier, hnumber]

/-- A digit that starts no word is a lone digit of unknown kind. -/
theorem unknown_of_digit
    (hx : x.Regular)
    {c : Char} {rest : List Char} {n : Nat}
    (hdigit : c ∈ asciiDigits)
    (h : firstMatch? (x.signPatterns ++ otherPatterns) (c :: rest) = some (kind, n)) :
    kind = .unknown ∧ n = 1 := by
  have hblank : ¬ CharSet.blank.contains c = true :=
    CharSet.not_contains_of_lacks (by decide) hdigit
  rcases firstMatch?_append_eq_some_iff.1 h with h | ⟨_, h⟩
  · obtain ⟨p, hmem, hp⟩ := exists_mem_of_firstMatch? h
    have hstarts := hx.digit_signs _ hmem
    rw [Plain.chars?_eq_none_of_starts
      (fun s hs => CharSet.not_contains_of_lacks (hstarts s hs) hdigit) rest] at hp
    cases hp
  · simp only [otherPatterns, firstMatch?, List.findSome?_cons, Plain.run,
      Plain.chars?_one_many, if_neg hblank, Plain.chars?_one,
      if_pos (CharSet.contains_all c)] at h
    cases h
    exact ⟨rfl, rfl⟩

/-- What is found before any rest is found alone, a lone digit apart. -/
theorem firstMatch?_alone
    (hx : x.Regular)
    (hv : v ≠ [])
    (hlone : kind = .unknown → ∀ c ∈ asciiDigits, v ≠ [c])
    (h : firstMatch? x.patterns (v ++ more) = some (kind, v.length)) :
    firstMatch? x.patterns v = some (kind, v.length) := by
  cases hword : more.head?.any Text.isAsciiWord with
  | false =>
      apply firstMatch?_cut ?_ h
      intro e he
      rcases List.mem_append.1 he with he | he
      · exact Plain.blindTo_of_edges (hx.word_looks e he) hword
      · exact Plain.blindTo_of_looks_eq_nil (hx.looks_eq_nil e he) _
  | true =>
      obtain ⟨c, rest, rfl⟩ := List.exists_cons_of_ne_nil hv
      rcases firstMatch?_append_eq_some_iff.1 h with h | ⟨hnone, h⟩
      · -- A word is no match here, because a character of a word follows.
        rw [hx.not_word_of_wordPatterns h] at hword
        cases hword
      · -- A text that starts like an identifier would be one.
        have hfirst : ¬ x.first.contains c = true := by
          intro hc
          have hidentifier := firstMatch?_eq_none_iff.1 hnone
            (.identifier, .seq (.one x.first) (.many x.inner true))
              (by simp [wordPatterns])
          rw [List.cons_append, Plain.chars?_one_many, if_pos hc] at hidentifier
          cases hidentifier
        have hdigit : c ∉ asciiDigits := by
          intro hc
          obtain ⟨hkind, hlen⟩ := hx.unknown_of_digit hc h
          have hrest : rest = [] := by simpa using hlen
          exact hlone hkind c hc (by rw [hrest])
        refine firstMatch?_append_eq_some_iff.2
          (Or.inr ⟨hx.wordPatterns_none hfirst hdigit rest, firstMatch?_cut ?_ h⟩)
        intro e he
        exact Plain.blindTo_of_looks_eq_nil (hx.looks_eq_nil e he) _

end Lexicon.Regular

/-- What a built-in table finds before any rest it finds alone, a lone digit apart. -/
theorem findMatch_alone
    {l : Language} {kind : Kind}
    {v more : List Char}
    (hlone : kind = .unknown → ∀ c ∈ asciiDigits, v ≠ [c])
    (h : (builtin l).findMatch (v ++ more) = some (kind, v)) :
    (builtin l).findMatch v = some (kind, v) := by
  have hv := (findMatch_eq_some h).1
  rw [findMatch_builtin_eq_some_iff] at h
  rw [findMatch_builtin_self_iff]
  cases hlexicon : lexicon? l with
  | none =>
      apply firstMatch?_cut ?_ h
      intro e he
      exact Plain.blindTo_of_looks_eq_nil (looks_of_lexicon? hlexicon e he) _
  | some x =>
      rw [patterns_of_lexicon? hlexicon] at h ⊢
      exact (lexicon_regular (mem_lexicons hlexicon)).firstMatch?_alone hv hlone h

theorem Segmentation.single
    {t : Table} {kind : Kind} {v : List Char}
    (h : t.findMatch v = some (kind, v)) :
    t.Segmentation v [⟨some kind, v⟩] := by
  have hnil : t.findMatch (v ++ []) = some (kind, v) := by
    rwa [List.append_nil]
  simpa using taken hnil nil

/--
Every token of a built-in table stands on its own: unless it is of unknown kind, scanning
its text alone gives that token and no other, at the start of the text.
-/
theorem scan_token_alone
    (l : Language)
    (settings settings' : ScanSettings)
    (source : String)
    {k : Token}
    (hk : k ∈ ((builtin l).scan settings source).tokens)
    (hkind : k.kind ≠ .unknown) :
    ((builtin l).scan settings' k.value).tokens = [⟨k.kind, k.value, 1, 0⟩] := by
  obtain ⟨spans, hspans⟩ := Segmentation.exists_spans (builtin l) source.toList
  rw [scan_eq_account settings hspans] at hk
  obtain ⟨before, after, rfl, hfiltered, _⟩ := Span.mem_tokens_iff.1 hk
  have hfind : (builtin l).findMatch k.value.toList = some (k.kind, k.value.toList) := by
    apply findMatch_alone
    · intro hunknown
      exact absurd hunknown hkind
    · exact hspans.findMatch_eq
  rw [scan_eq_account settings' (Segmentation.single hfind)]
  have hline : Span.lineAfter settings' [] = 1 := rfl
  have hoffset : Span.offsetAfter [] = 0 := rfl
  simp [Span.tokens, Span.contexts, Span.token?, hfiltered, hline, hoffset]

/-- The opening of a comment that is never closed is an operator, also on its own. -/
theorem scan_token_alone_operator :
    ((builtin .c).scan ⟨false, false⟩ "/*").tokens = [⟨.operator, "/*", 1, 0⟩] := by
  have hk :
      ⟨.operator, "/*", 1, 2⟩ ∈ ((builtin .c).scan ⟨true, false⟩ "x /* y").tokens := by
    decide +kernel
  exact scan_token_alone .c ⟨true, false⟩ ⟨false, false⟩ "x /* y" hk (by decide)

end Table
end TableLexer
