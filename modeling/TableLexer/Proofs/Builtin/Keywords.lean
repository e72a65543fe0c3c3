import TableLexer.Proofs.Builtin.Alone
import TableLexer.Proofs.Builtin.Separated

/-!
# What stands next to keywords

The pattern of the keywords asks for the edge of a word on both sides.  On the left
this asks nothing, because the rest of a source is scanned as if nothing stood before
it; on the right a word is an ASCII word, but the identifiers of JavaScript hold `$`
too.  So a keyword can be cut out of a longer word in two ways: behind a digit, and in
front of a `$` (`scan_keyword_neighbours`).

There are no other ways.  A text that ends like an identifier and stands before the
character of a word can be no word, since it would not have ended there; strings,
block comments, operators, delimiters and blanks do not end like identifiers, and line
comments go on up to the end of the line.  Only a lone digit is left.
-/

namespace TableLexer

namespace Table

open Pattern

/-- The characters that the identifiers of a programming language are made of. -/
def isIdentifierChar
    (l : Language) (c : Char) :
    Bool :=
  Text.isAsciiWord c || (l == .javaScript && c == '$')

/-- All characters that an identifier of some language can hold. -/
def identifierChars : List Char :=
  ((List.range 128).map Char.ofNat).filter fun c => Text.isAsciiWord c || c == '$'

/-- What tells identifiers and keywords from other texts. -/
structure Lexicon.WordsApart (x : Lexicon) : Prop where
  inner_ascii : x.inner.isAscii = true
  /-- Identifiers go on with what they can begin with, and with digits. -/
  first_or_digit : identifierChars.all
    (fun c => !x.inner.contains c || x.first.contains c || c.isDigit) = true
  keyword_starts : ∀ word ∈ x.keywords, word.toList.head?.any Text.isAsciiWord = true
  keyword_sets : ∀ s ∈ (Plain.wholeWord x.keywords).sets, s.lacks ['$'] = true
  /-- Each keyword is found, also one that begins like another. -/
  keyword_alone : ∀ word ∈ x.keywords,
    (Plain.wholeWord x.keywords).chars? word.toList = some word.toList.length
  /-- Strings, operators, delimiters and blanks do not end like identifiers. -/
  sign_ends : ∀ e ∈ x.signPatterns ++ otherPatterns, e.1 ≠ .comment → e.1 ≠ .unknown →
    ∀ s ∈ e.2.ends, s.lacks identifierChars = true

theorem lexicon_wordsApart
    {x : Lexicon}
    (hx : x ∈ lexicons) :
    x.WordsApart := by
  constructor <;> revert x <;> decide +kernel

theorem lt_of_isIdentifierChar
    {l : Language} {c : Char}
    (h : isIdentifierChar l c = true) :
    c.toNat < 128 := by
  unfold isIdentifierChar at h
  rw [Bool.or_eq_true, Bool.and_eq_true, beq_iff_eq, beq_iff_eq] at h
  rcases h with hword | ⟨_, rfl⟩
  · exact CharSet.lt_of_isAsciiWord hword
  · decide

theorem mem_identifierChars
    {l : Language} {c : Char}
    (h : isIdentifierChar l c = true) :
    c ∈ identifierChars := by
  have hlt := lt_of_isIdentifierChar h
  refine List.mem_filter.2 ⟨List.mem_map.2 ⟨c.toNat, List.mem_range.2 hlt,
    Char.ofNat_toNat c⟩, ?_⟩
  unfold isIdentifierChar at h
  rw [Bool.or_eq_true, Bool.and_eq_true] at h
  rw [Bool.or_eq_true]
  exact h.imp_right And.right

/-- These are the characters that the pattern of the identifiers goes on with. -/
theorem isIdentifierChar_iff
    {l : Language} {x : Lexicon} {c : Char}
    (h : lexicon? l = some x) :
    isIdentifierChar l c = true ↔ x.inner.contains c = true := by
  have hsame : ∀ n < 128,
      isIdentifierChar l (Char.ofNat n) = x.inner.contains (Char.ofNat n) := by
    cases l <;> cases h <;> decide
  have hascii := (lexicon_wordsApart (mem_lexicons h)).inner_ascii
  constructor
  · refine CharSet.forall_of_ascii _ _ (fun _ => lt_of_isIdentifierChar) ?_
    intro n hn hc
    rwa [← hsame n hn]
  · refine CharSet.forall_of_ascii _ _ (fun _ => CharSet.lt_of_isAscii hascii) ?_
    intro n hn hc
    rwa [hsame n hn]

namespace Lexicon

variable {x : Lexicon} {kind : Kind} {v more : List Char} {c d : Char}

theorem inLine_of_isAsciiWord
    (h : Text.isAsciiWord d = true) :
    inLine.contains d = true :=
  CharSet.forall_of_ascii _ _ (fun _ => CharSet.lt_of_isAsciiWord) (by decide) h

/-- A comment that ends within a line ends in a slash. -/
theorem Regular.comment_ends
    (hx : x.Regular)
    (h : x.comment.chars? (v ++ d :: more) = some v.length)
    (hd : Text.isAsciiWord d = true) :
    ∃ u, v = u ++ ['/'] := by
  have hline : ∀ p, (Plain.seq p (.many inLine true)).chars? (v ++ d :: more) ≠
      some v.length := by
    intro p hp
    have hnot := Plain.head?_not_contains_of_many hp
    simp [inLine_of_isAsciiWord hd] at hnot
  rcases hx.comment_form with hform | hform
  · rw [hform] at h
    rcases Plain.chars?_alt h with hopen | hclosed
    · exact absurd hopen (hline _)
    · obtain ⟨w, rest, htext, hlen, _, hw⟩ := Plain.exists_accepts_of_chars? hclosed
      obtain ⟨rfl, rfl⟩ := List.append_inj htext hlen.symm
      obtain ⟨u, rfl⟩ := Plain.accepts_enclosed.1 hw
      exact ⟨['/', '*'] ++ (u ++ ['*']), by simp⟩
  · rw [hform] at h
    exact absurd h (hline _)

/-- A character of identifiers that no word begins with is a digit. -/
theorem digit_of_no_word
    {l : Language}
    (hlexicon : lexicon? l = some x)
    (hnone : firstMatch? x.wordPatterns (c :: v) = none)
    (hc : isIdentifierChar l c = true) :
    c.isDigit = true := by
  have hapart := lexicon_wordsApart (mem_lexicons hlexicon)
  have hinner := (isIdentifierChar_iff hlexicon).1 hc
  have hor := List.all_eq_true.1 hapart.first_or_digit c (mem_identifierChars hc)
  rw [hinner, Bool.not_true, Bool.false_or, Bool.or_eq_true] at hor
  refine hor.resolve_left ?_
  intro hfirst
  have hword := firstMatch?_eq_none_iff.1 hnone
    (.identifier, .seq (.one x.first) (.many x.inner true)) (by simp [wordPatterns])
  rw [Plain.chars?_one_many, if_pos hfirst] at hword
  cases hword

/-- A text that ends like an identifier in front of the character of a word is a lone
digit. -/
theorem lone_digit_of_ends
    {l : Language}
    (hlexicon : lexicon? l = some x)
    (h : firstMatch? x.patterns (v ++ d :: more) = some (kind, v.length))
    (hd : Text.isAsciiWord d = true)
    (hv : v ≠ [])
    (hlast : isIdentifierChar l (v.getLast hv) = true) :
    kind = .unknown ∧ ∃ c, c.isDigit = true ∧ v = [c] := by
  have hregular := lexicon_regular (mem_lexicons hlexicon)
  have hidentifier := mem_identifierChars hlast
  rcases firstMatch?_append_eq_some_iff.1 h with h | ⟨hnone, h⟩
  · -- A word would have gone on.
    obtain ⟨c, w, rfl⟩ := List.exists_cons_of_ne_nil hv
    have hnot := hregular.not_word_of_wordPatterns h
    simp [hd] at hnot
  · obtain ⟨p, hmem, hp⟩ := exists_mem_of_firstMatch? h
    by_cases hcomment : kind = .comment
    · have hform : p = x.comment := by
        simpa [signPatterns, otherPatterns, hcomment] using hmem
      rw [hform] at hp
      obtain ⟨u, rfl⟩ := hregular.comment_ends hp hd
      rw [List.getLast_append_singleton] at hidentifier
      exact absurd hidentifier (by decide)
    · by_cases hunknown : kind = .unknown
      · have hone : p = .one .all := by
          simpa [signPatterns, otherPatterns, hunknown] using hmem
        obtain ⟨c, w, rfl⟩ := List.exists_cons_of_ne_nil hv
        rw [hone, List.cons_append, Plain.chars?_one,
          if_pos (CharSet.contains_all c)] at hp
        have hw : w = [] := by simpa using hp.symm
        subst hw
        rw [List.getLast_singleton] at hlast
        exact ⟨hunknown, c, digit_of_no_word hlexicon hnone hlast, rfl⟩
      · obtain ⟨w, rest, htext, hlen, hne, hw⟩ := Plain.exists_accepts_of_chars? hp
        obtain ⟨rfl, rfl⟩ := List.append_inj htext hlen.symm
        obtain ⟨s, hs, hc⟩ := Plain.exists_end_of_accepts hw hne
        have hapart := lexicon_wordsApart (mem_lexicons hlexicon)
        have hlacks := hapart.sign_ends _ hmem hcomment hunknown s hs
        exact absurd hc (CharSet.not_contains_of_lacks hlacks hidentifier)

theorem chars?_of_keyword
    (h : firstMatch? x.patterns (v ++ more) = some (.keyword, v.length)) :
    (Plain.wholeWord x.keywords).chars? (v ++ more) = some v.length :=
  chars?_of_firstMatch? (.keyword, .wholeWord x.keywords)
    (by simp [patterns, wordPatterns]) h

theorem starts_word_of_keyword
    (hx : x ∈ lexicons)
    (h : firstMatch? x.patterns (c :: v ++ more) = some (.keyword, (c :: v).length)) :
    Text.isAsciiWord c = true := by
  obtain ⟨w, rest, htext, hlen, _, hw⟩ :=
    Plain.exists_accepts_of_chars? (chars?_of_keyword h)
  obtain ⟨rfl, rfl⟩ := List.append_inj htext hlen.symm
  obtain ⟨word, hword, heq⟩ := Plain.exists_word_of_accepts hw
  have hstarts := (lexicon_wordsApart hx).keyword_starts word hword
  rw [heq] at hstarts
  simpa using hstarts

/-- A `$` ends a keyword as the end of the text does. -/
theorem firstMatch?_keyword_dollar
    (hx : x ∈ lexicons)
    {word : String}
    (hword : word ∈ x.keywords)
    (rest : List Char) :
    firstMatch? x.patterns (word.toList ++ '$' :: rest) =
      some (.keyword, word.toList.length) := by
  have hapart := lexicon_wordsApart hx
  have hlooks := (lexicon_regular hx).word_looks (.keyword, .wholeWord x.keywords)
    (by simp [wordPatterns])
  have hchars :
      (Plain.wholeWord x.keywords).chars? (word.toList ++ '$' :: rest)
        =
      some word.toList.length := by
    rw [← hapart.keyword_alone word hword]
    apply Plain.chars?_append_cons
    · intro s hs
      exact CharSet.not_contains_of_lacks (hapart.keyword_sets s hs)
        (List.mem_singleton.2 rfl)
    · exact Plain.blindTo_of_edges hlooks (by decide)
  simp only [patterns, wordPatterns, List.cons_append, firstMatch?,
    List.findSome?_cons, hchars, Option.map_some]

end Lexicon

namespace Segmentation

variable {l : Language} {x : Lexicon} {source : List Char}
  {before after : List Span} {w : List Char}

theorem firstMatch?_eq
    {kind : Kind}
    (hlexicon : lexicon? l = some x)
    (h : (builtin l).Segmentation source (before ++ ⟨some kind, w⟩ :: after)) :
    firstMatch? x.patterns (w ++ Span.joined after) = some (kind, w.length) := by
  have hfind := h.findMatch_eq
  rw [Span.joined_cons, Option.map_some, findMatch_builtin_eq_some_iff,
    patterns_of_lexicon? hlexicon] at hfind
  exact hfind

/-- Each span is what the patterns of the language find in front of the next ones. -/
def found (l : Language) : List Span → Bool
  | [] => true
  | ⟨some kind, w⟩ :: spans =>
    firstMatch? (patterns l) (w ++ Span.joined spans) == some (kind, w.length) &&
      found l spans
  | ⟨none, _⟩ :: _ => false

theorem of_found
    {spans : List Span}
    (hsource : source = Span.joined spans)
    (h : found l spans = true) :
    (builtin l).Segmentation source spans := by
  subst hsource
  induction spans with
  | nil =>
      exact nil
  | cons s spans ih =>
      obtain ⟨kind, w⟩ := s
      cases kind with
      | none =>
          cases h
      | some kind =>
          rw [found, Bool.and_eq_true, beq_iff_eq] at h
          exact taken (findMatch_builtin_eq_some_iff.2 h.1) (ih h.2)

/-- Only `$` goes on with the word behind a keyword. -/
theorem dollar_behind_keyword
    (hlexicon : lexicon? l = some x)
    (h : (builtin l).Segmentation source (before ++ ⟨some .keyword, w⟩ :: after))
    {c : Char}
    (hhead : (Span.joined after).head? = some c)
    (hc : isIdentifierChar l c = true) :
    l = .javaScript ∧ c = '$' := by
  have hkeyword := Lexicon.chars?_of_keyword (h.firstMatch?_eq hlexicon)
  have hregular := lexicon_regular (mem_lexicons hlexicon)
  have hnot := Plain.head?_not_word_of_closes rfl hregular.keyword_ends hkeyword
  rw [hhead] at hnot
  have hword : Text.isAsciiWord c = false := by simpa using hnot
  simpa [isIdentifierChar, hword] using hc

/-- Only a lone digit lies in front of the character of a word without ending a word. -/
theorem lone_digit_before_word
    (hlexicon : lexicon? l = some x)
    {s t : Span}
    (h : (builtin l).Segmentation source (before ++ s :: t :: after))
    {c d : Char}
    (hlast : s.text.getLast? = some c)
    (hc : isIdentifierChar l c = true)
    (hhead : t.text.head? = some d)
    (hd : Text.isAsciiWord d = true) :
    s = ⟨some .unknown, [c]⟩ ∧ c.isDigit = true := by
  obtain ⟨kind, v⟩ := s
  have hv : v ≠ [] := h.text_ne_nil ⟨kind, v⟩ (by simp)
  cases kind with
  | none =>
      obtain ⟨e, u, rfl⟩ := List.exists_cons_of_ne_nil hv
      have hnone := h.findMatch_eq
      rw [Span.joined_cons, Option.map_none, List.cons_append] at hnone
      exact absurd hnone (findMatch_builtin_ne_none l e _)
  | some kind =>
      obtain ⟨u, hu⟩ := List.head?_eq_some_iff.1 hhead
      have hends : isIdentifierChar l (v.getLast hv) = true := by
        rw [List.getLast?_eq_some_getLast hv, Option.some.injEq] at hlast
        rwa [hlast]
      have hfirst := h.firstMatch?_eq hlexicon
      rw [Span.joined_cons, hu, List.cons_append] at hfirst
      obtain ⟨rfl, digit, hdigit, rfl⟩ :=
        Lexicon.lone_digit_of_ends hlexicon hfirst hd hv hends
      cases hlast
      exact ⟨rfl, hdigit⟩

/-- Only a lone digit lies in front of a keyword without ending a word. -/
theorem digit_before_keyword
    (hlexicon : lexicon? l = some x)
    {s : Span}
    (h : (builtin l).Segmentation source (before ++ s :: ⟨some .keyword, w⟩ :: after))
    {c : Char}
    (hlast : s.text.getLast? = some c)
    (hc : isIdentifierChar l c = true) :
    s = ⟨some .unknown, [c]⟩ ∧ c.isDigit = true := by
  have hw : w ≠ [] := h.text_ne_nil ⟨some .keyword, w⟩ (by simp)
  obtain ⟨d, u, rfl⟩ := List.exists_cons_of_ne_nil hw
  have hbehind : (builtin l).Segmentation source
      ((before ++ [s]) ++ ⟨some .keyword, d :: u⟩ :: after) := by
    simpa using h
  have hd :=
    Lexicon.starts_word_of_keyword (mem_lexicons hlexicon)
      (hbehind.firstMatch?_eq hlexicon)
  exact h.lone_digit_before_word hlexicon hlast hc rfl hd

end Segmentation

/-- A keyword stands on its own but for two cases: a digit in front of it, which is then
a token of unknown kind, and in JavaScript a `$` behind it. -/
theorem scan_keyword_neighbours
    {l : Language}
    (hl : l ∈ [.c, .python, .java, .javaScript])
    (settings : ScanSettings)
    (source : String)
    {k : Token}
    (hk : k ∈ ((builtin l).scan settings source).tokens)
    (hkind : k.kind = .keyword) :
    ∃ before after : String,
      source = before ++ k.value ++ after ∧
      before.utf8ByteSize = k.position ∧
      (∀ c, before.toList.getLast? = some c → isIdentifierChar l c = true →
        c.isDigit = true ∧
          ∃ d ∈ ((builtin l).scan settings source).tokens,
            d.kind = .unknown ∧ d.value.toList = [c] ∧ d.stop = k.position) ∧
      (∀ c, after.toList.head? = some c → isIdentifierChar l c = true →
        l = .javaScript ∧ c = '$') := by
  obtain ⟨x, hlexicon⟩ := exists_lexicon hl
  obtain ⟨spans, hspans⟩ := Segmentation.exists_spans (builtin l) source.toList
  rw [scan_eq_account settings hspans] at hk ⊢
  obtain ⟨before, after, rfl, _, hposition, _⟩ := Span.mem_tokens_iff.1 hk
  obtain ⟨hsource, hbytes⟩ := hspans.source_eq
  rw [String.ofList_toList] at hsource
  rw [hkind] at hspans
  refine ⟨_, _, hsource, hbytes.trans hposition.symm, ?_, ?_⟩
  · intro c hlast hc
    rw [String.toList_ofList] at hlast
    rcases List.eq_nil_or_concat' before with rfl | ⟨first, s, rfl⟩
    · cases hlast
    · rw [List.append_assoc, List.singleton_append] at hspans
      have hs : s.text ≠ [] := hspans.text_ne_nil s (by simp)
      have hend : s.text.getLast? = some c := by
        simpa [List.getLast?_append, List.getLast?_eq_some_getLast hs] using hlast
      obtain ⟨rfl, hdigit⟩ := hspans.digit_before_keyword hlexicon hend hc
      let digit : Token :=
        ⟨.unknown, String.ofList [c], Span.lineAfter settings first,
         Span.offsetAfter first⟩
      have hmem : digit ∈ Span.tokens settings
          (first ++ [⟨some .unknown, [c]⟩] ++ ⟨some k.kind, k.value.toList⟩ :: after) :=
        Span.mem_tokens_iff.2 ⟨first, ⟨some k.kind, k.value.toList⟩ :: after,
          by simp [digit], rfl, rfl, rfl⟩
      have hstop : digit.stop = k.position := by
        rw [hposition, Span.offsetAfter_append_singleton, Token.stop,
          Text.utf8ByteSize_ofList]
      exact ⟨hdigit, digit, hmem, rfl, String.toList_ofList, hstop⟩
  · intro c hhead hc
    rw [String.toList_ofList] at hhead
    exact hspans.dollar_behind_keyword hlexicon hhead hc

/-- A digit that no number begins with lets the keyword behind it through. -/
theorem scan_three_if :
    ((builtin .c).scan ⟨false, false⟩ "3if").tokens
      =
    [⟨.unknown, "3", 1, 0⟩, ⟨.keyword, "if", 1, 1⟩] := by
  have hdigit : firstMatch? (patterns .c) (['3'] ++ ['i', 'f']) = some (.unknown, 1) := by
    decide +kernel
  have hkeyword : firstMatch? (patterns .c) ['i', 'f'] = some (.keyword, 2) := by
    decide +kernel
  have hspans := (Segmentation.single (findMatch_builtin_self_iff.2 hkeyword)).taken
    (findMatch_builtin_eq_some_iff.2 hdigit)
  have hsource : "3if".toList = ['3'] ++ ['i', 'f'] := by rfl
  rw [← hsource] at hspans
  rw [scan_eq_account ⟨false, false⟩ hspans]
  rfl

theorem scan_keyword_neighbours_behind_three :
    let tokens := ((builtin .c).scan ⟨false, false⟩ "3if").tokens
    Language.c ∈ [.c, .python, .java, .javaScript] ∧
      ⟨.keyword, "if", 1, 1⟩ ∈ tokens ∧
      ∃ before after : String,
        "3if" = before ++ "if" ++ after ∧
        before.utf8ByteSize = 1 ∧
        (∀ c, before.toList.getLast? = some c → isIdentifierChar .c c = true →
          c.isDigit = true ∧
            ∃ d ∈ tokens, d.kind = .unknown ∧ d.value.toList = [c] ∧ d.stop = 1) ∧
        (∀ c, after.toList.head? = some c → isIdentifierChar .c c = true →
          Language.c = .javaScript ∧ c = '$') := by
  intro tokens
  have hl : Language.c ∈ [.c, .python, .java, .javaScript] := by decide
  have hk : ⟨.keyword, "if", 1, 1⟩ ∈ tokens := by
    simp [tokens, scan_three_if]
  exact ⟨hl, hk, scan_keyword_neighbours hl ⟨false, false⟩ "3if" hk rfl⟩

/-- Every keyword of JavaScript is cut out of the identifier that it begins with a `$`
behind it. -/
theorem scan_keyword_before_dollar
    (settings : ScanSettings)
    {word : String}
    (hword : word ∈ javaScriptKeywords)
    (rest : String) :
    ⟨.keyword, word, 1, 0⟩
      ∈ ((builtin .javaScript).scan settings (word ++ "$" ++ rest)).tokens := by
  have hlexicon : lexicon? .javaScript = some javaScriptLexicon := rfl
  have hfirst :=
    Lexicon.firstMatch?_keyword_dollar (mem_lexicons hlexicon) hword rest.toList
  rw [← patterns_of_lexicon? hlexicon] at hfirst
  obtain ⟨spans, hspans⟩ :=
    Segmentation.exists_spans (builtin .javaScript) ('$' :: rest.toList)
  have hsource := hspans.taken (findMatch_builtin_eq_some_iff.2 hfirst)
  have htext : (word ++ "$" ++ rest).toList = word.toList ++ '$' :: rest.toList := by
    simp
  rw [← htext] at hsource
  rw [scan_eq_account settings hsource]
  exact Span.mem_tokens_iff.2 ⟨[], spans, rfl, rfl, rfl, rfl⟩

/-- Neither character next to the token could belong to an identifier. -/
def WholeWord
    (l : Language) (source : String) (k : Token) :
    Prop :=
  ∀ before after : String,
    source = before ++ k.value ++ after →
    before.utf8ByteSize = k.position →
    (∀ c, before.toList.getLast? = some c → isIdentifierChar l c = false) ∧
    (∀ c, after.toList.head? = some c → isIdentifierChar l c = false)

/-- In JavaScript the first two characters of an identifier, and in C a keyword behind a
digit. -/
theorem scan_cuts_keywords_out :
    (∃ k ∈ ((builtin .javaScript).scan ⟨false, false⟩ "if$x").tokens,
      k.kind = .keyword ∧ ¬ WholeWord .javaScript "if$x" k) ∧
    (∃ k ∈ ((builtin .c).scan ⟨false, false⟩ "3if").tokens,
      k.kind = .keyword ∧ ¬ WholeWord .c "3if" k) := by
  constructor
  · refine ⟨⟨.keyword, "if", 1, 0⟩, ?_, rfl, ?_⟩
    · exact @scan_keyword_before_dollar ⟨false, false⟩ "if" (by decide) "x"
    · intro h
      have hdollar := (h "" "$x" rfl rfl).2 '$' rfl
      cases hdollar
  · refine ⟨⟨.keyword, "if", 1, 1⟩, by simp [scan_three_if], rfl, ?_⟩
    intro h
    have hdigit := (h "3" "" rfl rfl).1 '3' rfl
    cases hdigit

end Table
end TableLexer
