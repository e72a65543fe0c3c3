import TableLexer.Proofs.Builtin.Comments
import TableLexer.Proofs.Builtin.Taken
import TableLexer.Proofs.Builtin.Words

/-!
# Signs

Where a text begins neither with a digit nor like an identifier, the tables of the
programming languages find what a lexer finds that looks at the first characters and
runs to an end that it knows (`signAt`).  The patterns are tried in the order of their
kinds, and some begin with the same character: `/` begins comments and operators, and a
quotation mark that opens no string could be anything else.  The lexer says which of
them goes on where an earlier one fails.
-/

namespace TableLexer
namespace Table

open Pattern

/-- The marks that the strings of a language stand between. -/
def quotesOf : Language → List Char
  | .c | .java => ['"']
  | .python => ['\'', '"']
  | .javaScript => ['\'', '"', Char.ofNat 0x60]
  | .html | .css => []

def operatorsOf : Language → List Char
  | .c | .java | .javaScript => operatorChars
  | .python => "+-*/=<>!&|^%@~:".toList
  | .html | .css => []

/-- The characters that are delimiters. -/
def bracketChars : List Char :=
  "\x7b\x7d;,()[]".toList

def isLineEnd (c : Char) : Bool :=
  c == '\r' || c == '\n'

/-- The comment at the head of a text behind `//` or between `/*` and `*/`. -/
def slashCommentAt? : List Char → Option (List Char)
  | '/' :: '/' :: rest => some ('/' :: '/' :: rest.takeWhile fun c => !isLineEnd c)
  | '/' :: '*' :: rest => (Text.through? ['*', '/'] rest).map fun w => '/' :: '*' :: w
  | _ => none

/-- The comment at the head of a text behind `#`. -/
def hashCommentAt? : List Char → Option (List Char)
  | '#' :: rest => some ('#' :: rest.takeWhile fun c => !isLineEnd c)
  | _ => none

def commentAt? : Language → List Char → Option (List Char)
  | .c | .java | .javaScript => slashCommentAt?
  | .python => hashCommentAt?
  | .html | .css => fun _ => none

/-- What begins with the character, which is neither a digit nor begins an identifier. -/
def signAt
    (l : Language)
    (c : Char) (rest : List Char) :
    Kind × List Char :=
  if c ∈ quotesOf l then
    match Text.through? [c] rest with
    | some w => (.string, c :: w)
    | none => (.unknown, [c])
  else
    match commentAt? l (c :: rest) with
    | some w => (.comment, w)
    | none =>
      if c ∈ operatorsOf l then
        (.operator, (c :: rest).takeWhile (operatorsOf l).contains)
      else if c ∈ bracketChars then
        (.delimiter, [c])
      else if Text.isBlank c then
        (.whitespace, (c :: rest).takeWhile Text.isBlank)
      else
        (.unknown, [c])

/-! ## The patterns of the signs -/

theorem contains_inLine
    (c : Char) :
    inLine.contains c = !isLineEnd c := by
  have hranges : inLine = ⟨[(0, 9), (11, 12), (14, 0x10FFFF)]⟩ := by
    rfl
  have hvalid := CharSet.toNat_valid c
  have hreturn : c = '\r' ↔ c.toNat = 13 := by
    rw [← Char.toNat_inj]
    rfl
  have hfeed : c = '\n' ↔ c.toNat = 10 := by
    rw [← Char.toNat_inj]
    rfl
  rw [Bool.eq_iff_iff, hranges]
  simp only [CharSet.contains, CharSet.covers, CharSet.lastCode, isLineEnd,
    Bool.not_eq_true', Bool.or_eq_false_iff, beq_eq_false_iff_ne, ne_eq, hreturn,
    hfeed] at hvalid ⊢
  split_ifs <;> simp <;> omega

theorem text?_slashComment
    (input : List Char) :
    slashComment.text? input = slashCommentAt? input := by
  have hline : inLine.contains = fun c => !isLineEnd c := funext contains_inLine
  rw [slashComment, Plain.text?_alt rfl]
  unfold slashCommentAt?
  split
  · next rest =>
      have hopened := @Plain.text?_opened ['/', '/'] (by simp) inLine rest
      rw [List.cons_append, List.singleton_append] at hopened
      rw [hopened, hline]
      rfl
  · next rest =>
      have hopened :=
        @Plain.text?_opened_of_not_prefix ['/', '/'] ('/' :: '*' :: rest) (by simp)
        inLine (by simp)
      have henclosed := @Plain.text?_enclosed ['/', '*'] ['*', '/'] (by simp) rest
      rw [List.cons_append, List.singleton_append] at henclosed
      rw [hopened, henclosed, Option.none_or]
      rfl
  · next hslashes hstar =>
      rw [Plain.text?_opened_of_not_prefix (by simp), Plain.text?_enclosed_of_not_prefix]
      · rfl
      · rintro ⟨rest, rfl⟩
        exact hstar rest rfl
      · rintro ⟨rest, rfl⟩
        exact hslashes rest rfl

theorem text?_hashComment
    (input : List Char) :
    hashComment.text? input = hashCommentAt? input := by
  have hline : inLine.contains = fun c => !isLineEnd c := funext contains_inLine
  unfold hashCommentAt?
  split
  · next rest =>
      have hopened := @Plain.text?_opened ['#'] (by simp) inLine rest
      rw [List.singleton_append] at hopened
      rw [hashComment, hopened, hline]
      rfl
  · next hhash =>
      rw [hashComment, Plain.text?_opened_of_not_prefix (by simp)]
      rintro ⟨rest, rfl⟩
      exact hhash rest rfl

namespace Lexicon

variable {l : Language} {x : Lexicon} {c : Char} {rest : List Char}

theorem text?_comment
    (hlexicon : lexicon? l = some x)
    (input : List Char) :
    x.comment.text? input = commentAt? l input := by
  cases l with
  | html | css =>
      cases hlexicon
  | c | java | javaScript =>
      cases hlexicon
      exact text?_slashComment input
  | python =>
      cases hlexicon
      exact text?_hashComment input

theorem quotesOf_lexicon
    (hlexicon : lexicon? l = some x) :
    x.quotes = quotesOf l := by
  cases l <;> cases hlexicon <;> rfl

theorem contains_operators
    (hlexicon : lexicon? l = some x)
    (c : Char) :
    x.operators.contains c = (operatorsOf l).contains c := by
  cases l with
  | html | css =>
      cases hlexicon
  | c | java | javaScript =>
      cases hlexicon
      rw [Bool.eq_iff_iff, List.contains_iff_mem]
      exact contains_operators_iff
  | python =>
      cases hlexicon
      exact CharSet.contains_eq_of_lists (by decide) c

theorem contains_brackets
    (c : Char) :
    brackets.contains c = bracketChars.contains c :=
  CharSet.contains_eq_of_lists (by decide) c

/-- A quotation mark begins nothing but a string. -/
theorem quote_apart
    (hc : c ∈ quotesOf l)
    (rest : List Char) :
    commentAt? l (c :: rest) = none ∧ c ∉ operatorsOf l ∧ c ∉ bracketChars ∧
      Text.isBlank c = false := by
  have hapart :
      (quotesOf l).all (fun q =>
        !(operatorsOf l).contains q && !bracketChars.contains q && !Text.isBlank q) =
          true := by
    cases l <;> rfl
  have hquote : (c ∉ operatorsOf l ∧ c ∉ bracketChars) ∧ Text.isBlank c = false := by
    simpa using List.all_eq_true.1 hapart c hc
  obtain ⟨⟨hoperator, hbracket⟩, hspace⟩ := hquote
  have hcomment : commentAt? l (c :: rest) = none := by
    cases l with
    | html | css =>
        rfl
    | c | java =>
        cases List.mem_singleton.1 hc
        rfl
    | python | javaScript =>
        simp only [quotesOf, List.mem_cons, List.not_mem_nil, or_false] at hc
        rcases hc with rfl | rfl | rfl <;> rfl
  exact ⟨hcomment, hoperator, hbracket, hspace⟩

/-- The patterns behind those of the words find what the lexer finds. -/
theorem firstText?_signs
    (hlexicon : lexicon? l = some x)
    (c : Char) (rest : List Char) :
    firstText? (x.signPatterns ++ otherPatterns) (c :: rest) = some (signAt l c rest) := by
  have hoperators : x.operators.contains = (operatorsOf l).contains :=
    funext (contains_operators hlexicon)
  have hblank : CharSet.blank.contains = Text.isBlank := funext CharSet.contains_blank
  simp only [signPatterns, otherPatterns, List.cons_append, List.nil_append,
    firstText?_cons, quotesOf_lexicon hlexicon, Plain.text?_strings,
    text?_comment hlexicon, Plain.text?_run, Plain.text?_one, hoperators, hblank,
    contains_brackets, CharSet.contains_all, if_true, Option.map_some, firstText?_nil]
  unfold signAt
  by_cases hquote : c ∈ quotesOf l
  · -- No pattern behind that of the strings begins with a mark, but the last one.
    obtain ⟨hcomment, hoperator, hbracket, hspace⟩ := quote_apart hquote rest
    simp only [hquote, if_true, hcomment, List.contains_iff_mem, hoperator,
      hbracket, hspace]
    cases Text.through? [c] rest <;> rfl
  · simp only [hquote, if_false, Option.map_none, Option.none_or]
    cases commentAt? l (c :: rest) with
    | some w =>
        rfl
    | none =>
        simp only [Option.map_none, Option.none_or, List.contains_iff_mem]
        split_ifs <;> rfl

end Lexicon

/-- A text that begins neither with a digit nor like an identifier begins with what the
lexer of the signs finds. -/
theorem findMatch_signs
    {l : Language}
    (hl : l ∈ [.c, .python, .java, .javaScript])
    {c : Char}
    (hdigit : c.isDigit = false)
    (hstart : isIdentifierStart l c = false)
    (rest : List Char) :
    (builtin l).findMatch (c :: rest) = some (signAt l c rest) := by
  obtain ⟨x, hlexicon⟩ := exists_lexicon hl
  have hregular := lexicon_regular (mem_lexicons hlexicon)
  have hfirst : ¬ x.first.contains c = true := by
    rw [contains_first hlexicon, hstart]
    exact Bool.false_ne_true
  have hnot : c ∉ asciiDigits := by
    intro hmem
    rw [isDigit_of_mem hmem] at hdigit
    cases hdigit
  have hwords : firstText? x.wordPatterns (c :: rest) = none := by
    rw [firstText?_eq_map, hregular.wordPatterns_none hfirst hnot rest, Option.map_none]
  rw [findMatch_builtin, patterns_of_lexicon? hlexicon, Lexicon.patterns,
    firstText?_append, hwords, Option.none_or, Lexicon.firstText?_signs hlexicon]

/-- A slash and a star begin a comment only if it is closed. -/
theorem findMatch_signs_javaScript :
    Language.javaScript ∈ [.c, .python, .java, .javaScript] ∧
      '/'.isDigit = false ∧
      isIdentifierStart .javaScript '/' = false ∧
      (builtin .javaScript).findMatch "/*x*/*/".toList = some (.comment, "/*x*/".toList) ∧
      (builtin .javaScript).findMatch "/*+x".toList = some (.operator, "/*+".toList) := by
  have hl : Language.javaScript ∈ [.c, .python, .java, .javaScript] := by decide
  have hfind := @findMatch_signs .javaScript hl '/' rfl rfl
  exact ⟨hl, rfl, rfl, hfind "*x*/*/".toList, hfind "*+x".toList⟩

end Table
end TableLexer
