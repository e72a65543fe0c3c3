import TableLexer.Proofs.Builtin.Keywords
import TableLexer.Proofs.Builtin.Taken

/-!
# Words

Where a text begins like an identifier, the tables of the programming languages find a
word, and which one can be told without any pattern (`wordAt`): the longest beginning of
letters, digits and `_`, if that is a keyword, and otherwise the longest identifier.

The pattern of the keywords tries one word after the other, and some begin like others.
But it asks for the edge of a word behind each of them, and the edge lies where the
longest beginning ends and nowhere else (`accepts_wholeWord`).  So no keyword is taken
out of a longer word, and the order of the keywords makes no difference.
-/

namespace TableLexer

namespace Pattern

namespace Plain

variable {words : List String} {w rest : List Char}

/-- Of the words the pattern accepts the one that is the longest beginning of characters
of words. -/
theorem accepts_wholeWord
    (hwords : ∀ word ∈ words, word.toList ≠ [] ∧ word.toList.all Text.isAsciiWord = true) :
    (wholeWord words).Accepts none w rest
      ↔
    String.ofList w ∈ words ∧ (w ++ rest).takeWhile Text.isAsciiWord = w := by
  constructor
  · intro h
    obtain ⟨word, hword, rfl⟩ := exists_word_of_accepts h
    obtain ⟨hne, hall⟩ := hwords word hword
    have hedge := edge_of_closes rfl h
    rw [Look.holds_edge, behind_of_ne_nil none hne, Option.any_some,
      List.all_eq_true.1 hall _ (List.getLast_mem hne)] at hedge
    rw [String.ofList_toList, takeWhile_append_eq_iff]
    refine ⟨hword, List.all_eq_true.1 hall, ?_⟩
    simpa using hedge
  · rintro ⟨hword, htake⟩
    obtain ⟨hne, hall⟩ := hwords _ hword
    rw [String.toList_ofList] at hne hall
    have hbehind := (takeWhile_append_eq_iff.1 htake).2
    obtain ⟨c, v, rfl⟩ := List.exists_cons_of_ne_nil hne
    refine ⟨[], c :: v, rfl, ⟨rfl, ?_⟩, c :: v, [], by simp, ?_, rfl, ?_⟩
    · have hc := List.all_eq_true.1 hall c List.mem_cons_self
      simp [Look.holds_edge, hc]
    · refine accepts_anyOf.2 ⟨_,
        List.mem_map_of_mem (f := fun w => ofText w.toList) hword, ?_⟩
      rw [accepts_ofText, String.toList_ofList]
    · rw [behind_nil, behind_of_ne_nil none hne, Look.holds_edge, Option.any_some,
        List.all_eq_true.1 hall _ (List.getLast_mem hne), hbehind]
      rfl

theorem text?_wholeWord
    (hwords : ∀ word ∈ words, word.toList ≠ [] ∧ word.toList.all Text.isAsciiWord = true)
    (input : List Char) :
    (wholeWord words).text? input
      =
    if String.ofList (input.takeWhile Text.isAsciiWord) ∈ words then
      some (input.takeWhile Text.isAsciiWord)
    else
      none := by
  have hnullable : (wholeWord words).nullable = false := by
    have hany : ((words.map fun w => ofText w.toList).any nullable) = false := by
      rw [List.any_map, List.any_eq_false]
      intro word hword
      simpa [nullable_ofText] using (hwords word hword).1
    simp [wholeWord, wordEdge, nullable, nullable_anyOf, hany]
  have hsole : (wholeWord words).Sole := by
    intro v w rest more hsplit hv hw
    rw [← ((accepts_wholeWord hwords).1 hv).2, hsplit, ((accepts_wholeWord hwords).1 hw).2]
  apply Option.ext
  intro w
  simp only [hsole.text?_eq_some_iff hnullable, accepts_wholeWord hwords]
  constructor
  · rintro ⟨rest, rfl, hword, htake⟩
    rw [htake, if_pos hword]
  · intro h
    split at h
    · next hword =>
        cases h
        refine ⟨input.dropWhile Text.isAsciiWord,
          List.takeWhile_append_dropWhile.symm, hword, ?_⟩
        rw [List.takeWhile_append_dropWhile]
    · cases h

end Plain
end Pattern

namespace Table

open Pattern

/-- The characters that an identifier of a programming language begins with. -/
def isIdentifierStart
    (l : Language) (c : Char) :
    Bool :=
  c.isAlpha || c == '_' || (l == .javaScript && c == '$')

/-- The keywords of a language. -/
def keywordsOf : Language → List String
  | .c => cKeywords
  | .python => pythonKeywords
  | .java => javaKeywords
  | .javaScript => javaScriptKeywords
  | .html | .css => []

/-- The word at the head of a text that begins like an identifier: the longest beginning
of letters, digits and `_` if it is a keyword, otherwise the longest identifier. -/
def wordAt
    (l : Language) (input : List Char) :
    Kind × List Char :=
  let word := input.takeWhile Text.isAsciiWord
  if String.ofList word ∈ keywordsOf l then
    (.keyword, word)
  else
    (.identifier, input.takeWhile (isIdentifierChar l))

theorem keywordsOf_lexicon
    {l : Language} {x : Lexicon}
    (h : lexicon? l = some x) :
    x.keywords = keywordsOf l := by
  cases l <;> cases h <;> rfl

/-- The keywords of a language are words of letters, several and not too many. -/
theorem keywordsOf_wordList
    {l : Language} {x : Lexicon}
    (h : lexicon? l = some x) :
    IsWordList ((keywordsOf l).map String.toList) ∧
      (keywordsOf l).length ≤ 100 ∧
        ((keywordsOf l).map String.toList).flatten.length ≤ 500 := by
  apply keywords_wordLists
  cases l <;> cases h <;> simp [keywordsOf]

theorem keywordsOf_words
    {l : Language} {x : Lexicon}
    (h : lexicon? l = some x) :
    ∀ word ∈ keywordsOf l, word.toList ≠ [] ∧ word.toList.all Text.isAsciiWord = true := by
  intro word hword
  obtain ⟨hlist, _⟩ := keywordsOf_wordList h
  have hmem := List.mem_map_of_mem (f := String.toList) hword
  constructor
  · have hlong := hlist.lengths _ hmem
    exact List.ne_nil_of_length_pos (by omega)
  · rw [List.all_eq_true]
    intro c hc
    simp [Text.isAsciiWord, Char.isAlphanum, hlist.letters _ hmem c hc]

theorem isIdentifierChar_of_start
    {l : Language} {c : Char}
    (h : isIdentifierStart l c = true) :
    isIdentifierChar l c = true := by
  unfold isIdentifierStart at h
  unfold isIdentifierChar Text.isAsciiWord Char.isAlphanum
  simp only [Bool.or_eq_true] at h ⊢
  tauto

/-- These are the characters that the pattern of the identifiers begins with. -/
theorem contains_first
    {l : Language} {x : Lexicon}
    (h : lexicon? l = some x)
    (c : Char) :
    x.first.contains c = isIdentifierStart l c := by
  apply CharSet.contains_eq_of_ascii
  · cases l <;> cases h <;> decide
  · intro d hd
    exact lt_of_isIdentifierChar (isIdentifierChar_of_start hd)
  · cases l <;> cases h <;> decide

theorem contains_inner
    {l : Language} {x : Lexicon}
    (h : lexicon? l = some x)
    (c : Char) :
    x.inner.contains c = isIdentifierChar l c := by
  rw [Bool.eq_iff_iff, isIdentifierChar_iff h]

namespace Lexicon

variable {l : Language} {x : Lexicon} {c : Char} {rest : List Char}

/-- The pattern of the keywords takes the longest beginning of characters of words, if it
is a keyword, in whatever order they are listed. -/
theorem text?_keyword
    {words : List String}
    (hlexicon : lexicon? l = some x)
    (hwords : words.Perm (keywordsOf l))
    (input : List Char) :
    (Plain.wholeWord words).text? input
      =
    if String.ofList (input.takeWhile Text.isAsciiWord) ∈ keywordsOf l then
      some (input.takeWhile Text.isAsciiWord)
    else
      none := by
  have hletters := keywordsOf_words hlexicon
  rw [Plain.text?_wholeWord fun word hword => hletters word (hwords.mem_iff.1 hword)]
  simp only [hwords.mem_iff]

theorem text?_identifier
    (hlexicon : lexicon? l = some x)
    (c : Char) (rest : List Char) :
    (Plain.seq (.one x.first) (.many x.inner true)).text? (c :: rest)
      =
    if isIdentifierStart l c then
      some ((c :: rest).takeWhile (isIdentifierChar l))
    else
      none := by
  have hinner : x.inner.contains = isIdentifierChar l := funext (contains_inner hlexicon)
  rw [Plain.text?_seq_many rfl, Plain.text?_one, contains_first hlexicon, hinner]
  by_cases hc : isIdentifierStart l c = true
  · simp [hc, isIdentifierChar_of_start hc]
  · simp [hc]

theorem firstText?_words
    (hlexicon : lexicon? l = some x)
    (hc : isIdentifierStart l c = true)
    (rest : List Char) :
    firstText? x.wordPatterns (c :: rest) = some (wordAt l (c :: rest)) := by
  have hkeywords : x.keywords.Perm (keywordsOf l) := by
    rw [keywordsOf_lexicon hlexicon]
  simp only [wordPatterns, firstText?_cons, text?_keyword hlexicon hkeywords,
    text?_identifier hlexicon, if_pos hc, wordAt]
  split <;> rfl

/-- Only the pattern of the keywords finds keywords. -/
theorem keyword_of_firstText?
    {w input : List Char}
    (hlexicon : lexicon? l = some x)
    (h : firstText? x.patterns input = some (.keyword, w)) :
    w = input.takeWhile Text.isAsciiWord ∧ String.ofList w ∈ keywordsOf l := by
  obtain ⟨p, hmem, hp⟩ := exists_mem_of_firstText? h
  have hform : p = .wholeWord x.keywords := by
    simpa [patterns, wordPatterns, signPatterns, otherPatterns] using hmem
  have hkeywords : x.keywords.Perm (keywordsOf l) := by
    rw [keywordsOf_lexicon hlexicon]
  rw [hform, text?_keyword hlexicon hkeywords] at hp
  split at hp
  · next hword =>
      cases hp
      exact ⟨rfl, hword⟩
  · cases hp

/-- Only texts that begin like identifiers are found to be identifiers. -/
theorem start_of_firstText?
    {w : List Char}
    (hlexicon : lexicon? l = some x)
    (h : firstText? x.patterns (c :: rest) = some (.identifier, w)) :
    isIdentifierStart l c = true := by
  obtain ⟨p, hmem, hp⟩ := exists_mem_of_firstText? h
  have hform : p = .seq (.one x.first) (.many x.inner true) := by
    simpa [patterns, wordPatterns, signPatterns, otherPatterns] using hmem
  rw [hform, text?_identifier hlexicon] at hp
  split at hp
  · assumption
  · cases hp

end Lexicon

variable {l : Language} {x : Lexicon} {words : List String} {input w : List Char}

/-- What begins like an identifier is no keyword if it is found to be an identifier. -/
theorem not_keyword_of_wordAt
    (hlexicon : lexicon? l = some x)
    (h : wordAt l input = (.identifier, w)) :
    String.ofList w ∉ keywordsOf l := by
  intro hw
  unfold wordAt at h
  dsimp only at h
  split at h
  · cases h
  · next hword =>
      obtain ⟨_, hidentifier⟩ := Prod.mk.inj h
      have hall := (keywordsOf_words hlexicon _ hw).2
      rw [String.toList_ofList, List.all_eq_true] at hall
      -- The identifier has nothing but characters of words, so the longest word is as
      -- long.
      have htake : input.takeWhile Text.isAsciiWord = w := by
        obtain ⟨rest, rfl⟩ : w <+: input := by
          rw [← hidentifier]
          exact List.takeWhile_prefix _
        obtain ⟨_, hhead⟩ := takeWhile_append_eq_iff.1 hidentifier
        rw [takeWhile_append_eq_iff]
        refine ⟨hall, ?_⟩
        cases rest with
        | nil =>
            rfl
        | cons d rest =>
            rw [List.head?_cons, Option.any_some, isIdentifierChar,
              Bool.or_eq_false_iff] at hhead
            exact hhead.1
      rw [htake] at hword
      exact hword hw

/-- A text that begins like an identifier begins with a word. -/
theorem findMatch_word
    (hlexicon : lexicon? l = some x)
    {c : Char}
    (hc : isIdentifierStart l c = true)
    (rest : List Char) :
    (builtin l).findMatch (c :: rest) = some (wordAt l (c :: rest)) := by
  rw [findMatch_builtin, patterns_of_lexicon? hlexicon, Lexicon.patterns,
    firstText?_append, Lexicon.firstText?_words hlexicon hc, Option.some_or]

theorem not_keyword_of_findMatch
    (hlexicon : lexicon? l = some x)
    (h : (builtin l).findMatch input = some (.identifier, w)) :
    String.ofList w ∉ keywordsOf l := by
  cases input with
  | nil =>
      rw [findMatch_builtin] at h
      obtain ⟨p, _, hp⟩ := exists_mem_of_firstText? h
      obtain ⟨hne, rest, hnil, _⟩ := Plain.exists_accepts_of_text? hp
      simp only [List.nil_eq, List.append_eq_nil_iff] at hnil
      exact absurd hnil.1 hne
  | cons c rest =>
      have hfirst := h
      rw [findMatch_builtin, patterns_of_lexicon? hlexicon] at hfirst
      rw [findMatch_word hlexicon (Lexicon.start_of_firstText? hlexicon hfirst)] at h
      exact not_keyword_of_wordAt hlexicon (Option.some.inj h)

/-! ## The order of the keywords -/

/-- The table of a language with another list of keywords. -/
def withKeywords
    (l : Language) (words : List String) :
    Table :=
  (compileLenient l (⟨.keyword, wordsPattern words⟩ :: (declarations l).tail)).1

/-- The keywords in whatever order are read as the pattern of whole words. -/
theorem readMatcher?_of_perm
    (hlexicon : lexicon? l = some x)
    (hwords : words.Perm (keywordsOf l)) :
    readMatcher? ⟨.keyword, wordsPattern words⟩ =
      some (.keyword, walking (.wholeWord words)) := by
  obtain ⟨hlist, hcount, hlength⟩ := keywordsOf_wordList hlexicon
  have htexts := hwords.map String.toList
  apply readMatcher?_words
  · constructor
    · intro word hword
      exact hlist.letters word (htexts.mem_iff.1 hword)
    · intro word hword
      exact hlist.lengths word (htexts.mem_iff.1 hword)
    · rw [htexts.length_eq]
      exact hlist.several
  · rwa [hwords.length_eq]
  · rwa [htexts.flatten.length_eq]

theorem withKeywords_matchers
    (hlexicon : lexicon? l = some x)
    (hwords : words.Perm (keywordsOf l)) :
    ((withKeywords l words).rules.map fun r => (r.kind, r.matcher))
      =
    { x with keywords := words }.patterns.map fun (e : Kind × Plain) =>
      (e.1, walking e.2) := by
  have hdeclared :
      declarations l = ⟨.keyword, wordsPattern (keywordsOf l)⟩ ::
        (declarations l).tail := by
    cases l <;> cases hlexicon <;> rfl
  have hread :
      (declarations l).filterMap readMatcher?
        =
      x.patterns.map fun (e : Kind × Plain) => (e.1, walking e.2) := by
    rw [← patterns_of_lexicon? hlexicon, ← builtin_matchers, ← compileLenient_matchers l,
      builtin_eq_ofLanguage, ofLanguage]
  rw [hdeclared, List.filterMap_cons,
    readMatcher?_of_perm hlexicon (List.Perm.refl (keywordsOf l))] at hread
  rw [withKeywords, compileLenient_matchers, List.filterMap_cons,
    readMatcher?_of_perm hlexicon hwords]
  exact congrArg (List.cons _) (List.cons.inj hread).2

/-- The table finds the same whatever the order of its keywords. -/
theorem findMatch_withKeywords
    (hlexicon : lexicon? l = some x)
    (hwords : words.Perm (keywordsOf l))
    (input : List Char) :
    (withKeywords l words).findMatch input = (builtin l).findMatch input := by
  have hkeywords : x.keywords.Perm (keywordsOf l) := by
    rw [keywordsOf_lexicon hlexicon]
  rw [findMatch_of_walking (withKeywords_matchers hlexicon hwords), findMatch_builtin,
    patterns_of_lexicon? hlexicon]
  simp only [Lexicon.patterns, Lexicon.wordPatterns, List.cons_append, firstText?_cons,
    Lexicon.text?_keyword hlexicon hwords, Lexicon.text?_keyword hlexicon hkeywords]
  rfl

/-- A text that begins like an identifier begins with a keyword, if its longest beginning
of letters, digits and `_` is one, and otherwise with the longest identifier.  So every
keyword found is such a longest beginning, in whatever order the keywords are listed, and
no identifier of a scan is a keyword. -/
theorem findMatch_words
    {l : Language}
    (hl : l ∈ [.c, .python, .java, .javaScript]) :
    (∀ c rest, isIdentifierStart l c = true →
      (builtin l).findMatch (c :: rest) = some (wordAt l (c :: rest))) ∧
    (∀ input w, (builtin l).findMatch input = some (.keyword, w) →
      w = input.takeWhile Text.isAsciiWord ∧ String.ofList w ∈ keywordsOf l) ∧
    (∀ words, words.Perm (keywordsOf l) → ∀ input,
      (withKeywords l words).findMatch input = (builtin l).findMatch input) ∧
    (∀ settings source, ∀ k ∈ ((builtin l).scan settings source).tokens,
      k.kind = .identifier → k.value ∉ keywordsOf l) := by
  obtain ⟨x, hlexicon⟩ := exists_lexicon hl
  refine ⟨?_, ?_, ?_, ?_⟩
  · intro c rest hc
    exact findMatch_word hlexicon hc rest
  · intro input w h
    rw [findMatch_builtin, patterns_of_lexicon? hlexicon] at h
    exact Lexicon.keyword_of_firstText? hlexicon h
  · intro words hwords input
    exact findMatch_withKeywords hlexicon hwords input
  · intro settings source k hk hkind
    obtain ⟨spans, hspans⟩ := Segmentation.exists_spans (builtin l) source.toList
    rw [scan_eq_account settings hspans] at hk
    obtain ⟨before, after, rfl, _, _⟩ := hspans.exists_split hk
    have hfind := hspans.findMatch_eq
    rw [hkind, Option.map_some] at hfind
    have hvalue := not_keyword_of_findMatch hlexicon hfind
    rwa [String.ofList_toList] at hvalue

/-- Keywords of Java that begin with shorter ones, and identifiers that do. -/
theorem findMatch_words_java :
    Language.java ∈ [.c, .python, .java, .javaScript] ∧
      (builtin .java).findMatch "instanceof x".toList =
        some (.keyword, "instanceof".toList) ∧
      (builtin .java).findMatch "double1".toList = some (.identifier, "double1".toList) ∧
      (withKeywords .java javaKeywords.reverse).findMatch "format".toList
        =
      some (.identifier, "format".toList) := by
  have hl : Language.java ∈ [.c, .python, .java, .javaScript] := by decide
  obtain ⟨hwords, _, horder, _⟩ := findMatch_words hl
  refine ⟨hl, ?_, ?_, ?_⟩
  · exact hwords 'i' "nstanceof x".toList rfl
  · exact hwords 'd' "ouble1".toList rfl
  · exact (horder _ javaKeywords.reverse_perm _).trans (hwords 'f' "ormat".toList rfl)

end Table
end TableLexer
