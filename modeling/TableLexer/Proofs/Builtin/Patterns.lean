import TableLexer.Proofs.Builtin.WordList
import TableLexer.Proofs.Pattern.Reach
import TableLexer.Proofs.Table.Compiling
import TableLexer.Table.Builtin

/-!
# The patterns of the built-in tables

The rules of the six built-in tables, once read, are all walked from the start of
the text.  This module writes their patterns down as plain patterns, family by
family, and shows that reading the declared texts gives exactly these
(`builtin_matchers`).  From here on nothing looks at the text of a pattern again.

The four programming languages share one layout, so their tables are values of one
record, `Lexicon`.
-/

namespace TableLexer

namespace Pattern
namespace Plain

/-- A run of the set, as long as it can be, of one character at least. -/
def run (s : CharSet) : Plain :=
  seq (one s) (many s true)

/-- A text between two quotation marks. -/
def quoted (q : Char) : Plain :=
  seq (one (.single q)) (seq (many (CharSet.single q).compl true) (one (.single q)))

/-- A text between two of the quotation marks, the same one twice. -/
def strings (quotes : List Char) : Plain :=
  anyOf (quotes.map quoted)

/-- A text from an opening to the first closing behind it. -/
def enclosed (opening closing : List Char) : Plain :=
  seq (ofText opening) (seq (many .all false) (ofText closing))

def digits : Plain :=
  run .asciiDigit

/-- A number that no word touches; `close` is what stands behind its digits. -/
def number (close : Plain) : Plain :=
  seq wordEdge
    (seq digits
      (seq (opt (seq (one (.single '.')) digits) true)
        (seq
          (opt (seq (one ((CharSet.single 'e').union (.single 'E')))
            (seq (opt (one ((CharSet.single '+').union (.single '-'))) true) digits)) true)
          close)))

end Plain
end Pattern

namespace Table

open Pattern

/-- The characters that a line comment may hold. -/
def inLine : CharSet :=
  ((CharSet.single '\r').union (.single '\n')).compl

def brackets : CharSet :=
  .unions (("\x7b\x7d;,()[]".toList).map CharSet.single)

def hashComment : Plain :=
  .seq (.ofText ['#']) (.many inLine true)

/-- A comment to the end of the line, or between slashes and stars. -/
def slashComment : Plain :=
  .alt (.seq (.ofText ['/', '/']) (.many inLine true)) (.enclosed ['/', '*'] ['*', '/'])

/-- What the tables of the programming languages differ in. -/
structure Lexicon where
  keywords : List String
  /-- The characters that a word may begin with. -/
  first : CharSet
  /-- The characters that a word may go on with. -/
  inner : CharSet
  /-- What stands behind the digits of a number. -/
  numberEnd : Plain
  quotes : List Char
  comment : Plain
  operators : CharSet

/-- The patterns whose texts end in the character of a word. -/
def Lexicon.wordPatterns (x : Lexicon) : List (Kind × Plain) :=
  [(.keyword, .wholeWord x.keywords),
   (.identifier, .seq (.one x.first) (.many x.inner true)),
   (.number, .number x.numberEnd)]

/-- The patterns whose texts are told by the signs that they start with. -/
def Lexicon.signPatterns (x : Lexicon) : List (Kind × Plain) :=
  [(.string, .strings x.quotes),
   (.comment, x.comment),
   (.operator, .run x.operators),
   (.delimiter, .one brackets)]

/-- The patterns for all that is neither a word nor a sign. -/
def otherPatterns : List (Kind × Plain) :=
  [(.whitespace, .run .blank), (.unknown, .one .all)]

def Lexicon.patterns (x : Lexicon) : List (Kind × Plain) :=
  x.wordPatterns ++ (x.signPatterns ++ otherPatterns)

/-- The ASCII letters and `_`. -/
def wordStart : CharSet :=
  CharSet.asciiLetter.union (.single '_')

def cLexicon : Lexicon where
  keywords := cKeywords
  first := wordStart
  inner := .asciiWord
  numberEnd := .wordEdge
  quotes := ['"']
  comment := slashComment
  operators := .unions ("+-*/=<>!&|^%~?:".toList.map CharSet.single)

def pythonLexicon : Lexicon where
  keywords := pythonKeywords
  first := wordStart
  inner := .asciiWord
  numberEnd := .wordEdge
  quotes := ['\'', '"']
  comment := hashComment
  operators := .unions ("+-*/=<>!&|^%@~:".toList.map CharSet.single)

def javaLexicon : Lexicon where
  keywords := javaKeywords
  first := wordStart
  inner := .asciiWord
  numberEnd :=
    .seq (.opt (.one (.unions ("fFdDlL".toList.map CharSet.single))) true) .wordEdge
  quotes := ['"']
  comment := slashComment
  operators := cLexicon.operators

def javaScriptLexicon : Lexicon where
  keywords := javaScriptKeywords
  first := wordStart.union (.single '$')
  inner := CharSet.asciiWord.union (.single '$')
  numberEnd := .wordEdge
  quotes := ['\'', '"', Char.ofNat 0x60]
  comment := slashComment
  operators := cLexicon.operators

/-- The letters of names in markup and in style sheets, and `-`. -/
def nameLetters : CharSet :=
  CharSet.asciiLetter.union (.single '-')

def htmlPatterns : List (Kind × Plain) :=
  [(.tag,
     .seq (.one (.single '<'))
       (.seq (.opt (.one (.single '/')) true)
         (.seq (.one .asciiLetter) (.many (nameLetters.union .asciiDigit) true)))),
   (.attr,
     .seq (.one .blank)
       (.seq (.run nameLetters)
         (.seq (.ofText ['=', '"'])
           (.seq (.many (CharSet.single '"').compl true) (.one (.single '"')))))),
   (.text, .seq (.one (.single '>')) (.run (CharSet.single '<').compl)),
   (.comment, .enclosed ['<', '!', '-', '-'] ['-', '-', '>']),
   (.delimiter, .one ((CharSet.single '<').union (.single '>'))),
   (.whitespace, .run .blank),
   (.unknown, .one .all)]

def selectorStart : CharSet :=
  CharSet.asciiWord.union (.unions ("_.#:".toList.map CharSet.single))

def selectorRest : CharSet :=
  CharSet.asciiWord.union (.unions ("_-.*#:[]=^$|>+~".toList.map CharSet.single))

def cssPatterns : List (Kind × Plain) :=
  [(.selector,
     .seq (.one selectorStart)
       (.seq (.run selectorRest) (.seq (.many .blank true) (.one (.single '\x7b'))))),
   (.property,
     .seq (.many .blank true)
       (.seq (.run nameLetters) (.seq (.many .blank true) (.one (.single ':'))))),
   (.value,
     .seq (.one (.single ':'))
       (.seq (.many .blank true)
         (.seq (.run (CharSet.single ';').compl) (.one (.single ';'))))),
   (.comment, .enclosed ['/', '*'] ['*', '/']),
   (.delimiter, .one (.unions ("\x7b\x7d;".toList.map CharSet.single))),
   (.whitespace, .run .blank),
   (.unknown, .one .all)]

/-- The patterns of a built-in table in order of preference. -/
def patterns : Language → List (Kind × Plain)
  | .c => cLexicon.patterns
  | .python => pythonLexicon.patterns
  | .java => javaLexicon.patterns
  | .javaScript => javaScriptLexicon.patterns
  | .html => htmlPatterns
  | .css => cssPatterns

/-- A matcher that walks the pattern from the start of the text. -/
def walking (p : Plain) : Matcher :=
  ⟨.walk (.seq (.look .textStart) p), true⟩

/-- The kind and the matcher of a declared rule, if it can be read. -/
def readMatcher? (d : Declaration) : Option (Kind × Matcher) :=
  ((readRule? d.pattern.toList).bind Matcher.ofPattern?).map fun m => (d.kind, m)

theorem readMatcher?_eq
    (d : Declaration) :
    (Rule.ofDeclaration? d).map (fun r => (r.kind, r.matcher)) = readMatcher? d := by
  unfold Rule.ofDeclaration? readMatcher?
  cases readRule? d.pattern.toList with
  | none =>
      rfl
  | some p =>
      simp [Function.comp_def]

/-- The kinds and matchers of a compiled table are those read from its declarations. -/
theorem compileLenient_matchers
    (l : Language) (ds : List Declaration) :
    ((compileLenient l ds).1.rules.map fun r => (r.kind, r.matcher))
      =
    ds.filterMap readMatcher? := by
  rw [compileLenient_rules, List.map_filterMap]
  simp only [readMatcher?_eq]

theorem builtin_eq_ofLanguage
    (l : Language) :
    builtin l = ofLanguage l := by
  cases l <;> rfl

theorem builtin_rules
    (l : Language) :
    (builtin l).rules = (declarations l).filterMap Rule.ofDeclaration? := by
  rw [builtin_eq_ofLanguage, ofLanguage, compileLenient_rules]

@[simp] theorem language_builtin
    (l : Language) :
    (builtin l).language = l := by
  rw [builtin_eq_ofLanguage, ofLanguage, language_compileLenient]

theorem toList_wordsPattern
    (words : List String) :
    (wordsPattern words).toList
      =
    "(?-u:\\b)(".toList ++
      (['|'].intercalate (words.map String.toList) ++ ")(?-u:\\b)".toList) := by
  simp [wordsPattern]

/-- Any words of letters, at least two of them and not too many, are read as the pattern
of these whole words. -/
theorem readMatcher?_words
    {words : List String}
    (h : IsWordList (words.map String.toList))
    (hcount : words.length ≤ 100)
    (hlength : (words.map String.toList).flatten.length ≤ 500) :
    readMatcher? ⟨.keyword, wordsPattern words⟩
      =
    some (.keyword, walking (.wholeWord words)) := by
  have hcount' : (words.map String.toList).length ≤ 100 := by
    rwa [List.length_map]
  rw [readMatcher?, toList_wordsPattern, readRule?_words h, Option.bind_some,
    ofPattern?_words h hcount' hlength, List.map_map]
  rfl

/-- The keywords of the languages are such words. -/
theorem keywords_wordLists :
    ∀ words ∈ [cKeywords, pythonKeywords, javaKeywords, javaScriptKeywords],
      IsWordList (words.map String.toList) ∧
        words.length ≤ 100 ∧ (words.map String.toList).flatten.length ≤ 500 := by
  have hlists : ∀ words ∈ [cKeywords, pythonKeywords, javaKeywords, javaScriptKeywords],
      (∀ word ∈ words.map String.toList, word.all Char.isAlpha = true ∧ 1 < word.length) ∧
        1 < (words.map String.toList).length ∧
        words.length ≤ 100 ∧ (words.map String.toList).flatten.length ≤ 500 := by
    decide +kernel
  intro words hwords
  obtain ⟨hletters, hseveral, hsizes⟩ := hlists words hwords
  refine ⟨⟨?_, ?_, hseveral⟩, hsizes⟩
  · intro word hword
    exact List.all_eq_true.1 (hletters word hword).1
  · intro word hword
    exact (hletters word hword).2

/-- Reading a list of keywords gives the pattern of whole words. -/
theorem readMatcher?_keywords :
    ∀ words ∈ [cKeywords, pythonKeywords, javaKeywords, javaScriptKeywords],
      readMatcher? ⟨.keyword, wordsPattern words⟩
        =
      some (.keyword, walking (.wholeWord words)) := by
  intro words hwords
  obtain ⟨hlist, hcount, hlength⟩ := keywords_wordLists words hwords
  exact readMatcher?_words hlist hcount hlength

/-- Reading the declared rules of a language gives its patterns. -/
theorem builtin_matchers
    (l : Language) :
    (builtin l).rules.map (fun r => (r.kind, r.matcher))
      =
    (patterns l).map fun (kind, p) => (kind, walking p) := by
  rw [builtin_eq_ofLanguage, ofLanguage, compileLenient_matchers]
  cases l with
  | c =>
      rw [declarations, cRules, List.filterMap_cons,
        readMatcher?_keywords cKeywords (by simp)]
      decide +kernel
  | python =>
      rw [declarations, pythonRules, List.filterMap_cons,
        readMatcher?_keywords pythonKeywords (by simp)]
      decide +kernel
  | java =>
      rw [declarations, javaRules, List.filterMap_cons,
        readMatcher?_keywords javaKeywords (by simp)]
      decide +kernel
  | javaScript =>
      rw [declarations, javaScriptRules, List.filterMap_cons,
        readMatcher?_keywords javaScriptKeywords (by simp)]
      decide +kernel
  | html =>
      decide +kernel
  | css =>
      decide +kernel

/-- A rule that walks a pattern takes what the pattern prefers to take, unless that is
nothing. -/
theorem matchChars?_of_walking
    {r : Rule} {p : Plain}
    (h : r.matcher = walking p)
    (input : List Char) :
    r.matchChars? input = p.chars? input := by
  unfold Rule.matchChars? Plain.chars?
  rw [h]
  simp only [walking, Matcher.search, if_true, Engine.stop?, Plain.stop?_eq_head?,
    Plain.takes_textStart_seq]
  cases (p.takes none input).head? with
  | none =>
      rfl
  | some n =>
      cases n with
      | zero =>
          rfl
      | succ n =>
          rfl

/-- What the first pattern that matches takes, with its kind. -/
def firstMatch?
    (ps : List (Kind × Plain))
    (input : List Char) :
    Option (Kind × Nat) :=
  ps.findSome? fun (kind, p) => (p.chars? input).map fun n => (kind, n)

/-- Either one of the first patterns matches, or none of them does and a later one
does. -/
theorem firstMatch?_append_eq_some_iff
    {ps qs : List (Kind × Plain)}
    {input : List Char} {found : Kind × Nat} :
    firstMatch? (ps ++ qs) input = some found
      ↔
    firstMatch? ps input = some found ∨
      firstMatch? ps input = none ∧ firstMatch? qs input = some found := by
  unfold firstMatch?
  rw [List.findSome?_append, Option.or_eq_some_iff]

theorem firstMatch?_eq_none_iff
    {ps : List (Kind × Plain)}
    {input : List Char} :
    firstMatch? ps input = none ↔ ∀ e ∈ ps, e.2.chars? input = none := by
  unfold firstMatch?
  rw [List.findSome?_eq_none_iff]
  simp only [Option.map_eq_none_iff]

theorem exists_mem_of_firstMatch?
    {ps : List (Kind × Plain)}
    {input : List Char} {kind : Kind} {n : Nat}
    (h : firstMatch? ps input = some (kind, n)) :
    ∃ p, (kind, p) ∈ ps ∧ p.chars? input = some n := by
  obtain ⟨⟨k, p⟩, hmem, hp⟩ := List.exists_of_findSome?_eq_some h
  obtain ⟨m, hm, heq⟩ := Option.map_eq_some_iff.1 hp
  cases heq
  exact ⟨p, hmem, hm⟩

/-- If the kinds are told apart, the pattern of a kind gives the first match exactly when
it matches and those before it do not. -/
theorem firstMatch?_split_iff
    {earlier later : List (Kind × Plain)}
    {kind : Kind} {p : Plain}
    {input : List Char} {n : Nat}
    (hearlier : kind ∉ earlier.map Prod.fst)
    (hlater : kind ∉ later.map Prod.fst) :
    firstMatch? (earlier ++ (kind, p) :: later) input = some (kind, n)
      ↔
    (∀ e ∈ earlier, e.2.chars? input = none) ∧ p.chars? input = some n := by
  have hcons : (kind, p) :: later = [(kind, p)] ++ later := rfl
  have hsingle :
      firstMatch? [(kind, p)] input = (p.chars? input).map fun n => (kind, n) := by
    rw [firstMatch?, List.findSome?_singleton]
  have hother : ∀ ps : List (Kind × Plain), kind ∉ ps.map Prod.fst →
      ¬ firstMatch? ps input = some (kind, n) := by
    intro ps hps h
    obtain ⟨q, hq, _⟩ := exists_mem_of_firstMatch? h
    exact hps (List.mem_map_of_mem (f := Prod.fst) hq)
  rw [firstMatch?_append_eq_some_iff, hcons, firstMatch?_append_eq_some_iff,
    firstMatch?_eq_none_iff, hsingle]
  simp [hother earlier hearlier, hother later hlater]

/-- A table whose rules walk patterns asks these in order. -/
theorem matchHead?_of_walking
    {t : Table} {ps : List (Kind × Plain)}
    (h : (t.rules.map fun r => (r.kind, r.matcher)) =
      ps.map fun (kind, p) => (kind, walking p))
    (input : List Char) :
    t.matchHead? input = firstMatch? ps input := by
  have hmatchers :
      t.matchHead? input
        =
      (t.rules.map fun r => (r.kind, r.matcher)).findSome? fun (kind, m) =>
        ((⟨kind, "", m⟩ : Rule).matchChars? input).map fun n => (kind, n) := by
    rw [List.findSome?_map]
    rfl
  rw [hmatchers, h, List.findSome?_map, firstMatch?]
  congr 1
  funext ⟨kind, p⟩
  simp only [Function.comp_apply]
  rw [matchChars?_of_walking rfl]

/-- A built-in table asks its patterns in order. -/
theorem matchHead?_builtin
    (l : Language)
    (input : List Char) :
    (builtin l).matchHead? input = firstMatch? (patterns l) input :=
  matchHead?_of_walking (builtin_matchers l) input

theorem catchAll_mem_patterns
    (l : Language) :
    (Kind.unknown, Plain.one .all) ∈ patterns l := by
  cases l <;> simp [patterns, Lexicon.patterns, otherPatterns, htmlPatterns, cssPatterns]

/-- A built-in table finds a match at the head of every text that is not empty. -/
theorem findMatch_builtin_ne_none
    (l : Language)
    (c : Char) (rest : List Char) :
    (builtin l).findMatch (c :: rest) ≠ none := by
  intro hnone
  have hhead := Option.map_eq_none_iff.1 hnone
  rw [matchHead?_builtin, firstMatch?_eq_none_iff] at hhead
  have hlast := hhead _ (catchAll_mem_patterns l)
  simp [Plain.chars?, Plain.takes, CharSet.contains_all] at hlast

/-- A built-in table finds a text at the head of an input exactly when the first pattern
that matches takes as many characters. -/
theorem findMatch_builtin_eq_some_iff
    {l : Language} {kind : Kind}
    {v more : List Char} :
    (builtin l).findMatch (v ++ more) = some (kind, v)
      ↔
    firstMatch? (patterns l) (v ++ more) = some (kind, v.length) := by
  unfold findMatch
  rw [matchHead?_builtin]
  constructor
  · intro h
    obtain ⟨⟨k, n⟩, hn, heq⟩ := Option.map_eq_some_iff.1 h
    obtain ⟨hk, hv⟩ := Prod.mk.inj heq
    obtain ⟨_, _, hp⟩ := exists_mem_of_firstMatch? hn
    have hle := Plain.chars?_le_length hp
    have hlen : v.length = n := by
      rw [← hv, List.length_take, Nat.min_eq_left hle]
    rw [hn, hk, hlen]
  · intro h
    rw [h]
    simp

theorem findMatch_builtin_self_iff
    {l : Language} {kind : Kind} {v : List Char} :
    (builtin l).findMatch v = some (kind, v)
      ↔
    firstMatch? (patterns l) v = some (kind, v.length) := by
  simpa using @findMatch_builtin_eq_some_iff l kind v []

end Table
end TableLexer
