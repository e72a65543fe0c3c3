import TableLexer.Proofs.Builtin.Markup

/-!
# Style sheets

The table of CSS finds what a lexer finds that tries five forms one after the other and
falls back to blanks and single characters (`styleAt`).  The forms begin with the same
characters: a colon begins selectors and values and ends properties, and blanks stand
inside selectors, properties and values and in front of properties.

In selectors and properties every part ends where a character comes that it cannot hold,
so each of them is as long as it can be.  Only in a value the blanks behind the colon are
characters of the text behind them too.  That does not matter: whatever the blanks are
counted to, a value ends at the first semicolon.
-/

namespace TableLexer
namespace Table

open Pattern

/-- The characters that a selector begins with. -/
def isSelectorStart (c : Char) : Bool :=
  c.isAlphanum || "_.#:".toList.contains c

/-- The characters that a selector goes on with. -/
def isSelectorChar (c : Char) : Bool :=
  c.isAlphanum || "_-.*#:[]=^$|>+~".toList.contains c

/-- Blanks up to a mark, which is included. -/
def blanksTo?
    (mark : Char)
    (input : List Char) :
    Option (List Char) :=
  if (input.dropWhile Text.isBlank).head? = some mark then
    some (input.takeWhile Text.isBlank ++ [mark])
  else
    none

/-- A selector of two characters at least, blanks and an opening brace. -/
def selector? : List Char → Option (List Char)
  | [] => none
  | c :: rest =>
    if isSelectorStart c && !(rest.takeWhile isSelectorChar).isEmpty then
      (blanksTo? '\x7b' (rest.dropWhile isSelectorChar)).map
        (c :: rest.takeWhile isSelectorChar ++ ·)
    else
      none

/-- Blanks, a name, blanks and a colon. -/
def property? (input : List Char) : Option (List Char) :=
  let spaced := input.dropWhile Text.isBlank
  let name := spaced.takeWhile isNameLetter
  if name.isEmpty then
    none
  else
    (blanksTo? ':' (spaced.dropWhile isNameLetter)).map
      (input.takeWhile Text.isBlank ++ name ++ ·)

/-- A colon and what follows up to the next semicolon, which is not the next character. -/
def value? : List Char → Option (List Char)
  | ':' :: c :: rest =>
    if c = ';' then none else (Text.through? [';'] (c :: rest)).map (':' :: ·)
  | _ => none

/-- The comment at the head of a text between `/*` and `*/`. -/
def starComment? : List Char → Option (List Char)
  | '/' :: '*' :: rest => (Text.through? ['*', '/'] rest).map (['/', '*'] ++ ·)
  | _ => none

/-- What begins with the character in a style sheet. -/
def styleAt
    (c : Char) (rest : List Char) :
    Kind × List Char :=
  match selector? (c :: rest) with
  | some w => (.selector, w)
  | none =>
    match property? (c :: rest) with
    | some w => (.property, w)
    | none =>
      match value? (c :: rest) with
      | some w => (.value, w)
      | none =>
        match starComment? (c :: rest) with
        | some w => (.comment, w)
        | none =>
          if c ∈ ['\x7b', '\x7d', ';'] then (.delimiter, [c])
          else if Text.isBlank c then (.whitespace, (c :: rest).takeWhile Text.isBlank)
          else (.unknown, [c])

/-! ## The sets -/

theorem lt_of_isAlphanum_or
    {cs : List Char} {c : Char}
    (hcs : (cs.all fun d => d.toNat < 128) = true)
    (h : (c.isAlphanum || cs.contains c) = true) :
    c.toNat < 128 := by
  rcases (Bool.or_eq_true _ _).mp h with hword | hmem
  · apply CharSet.lt_of_isAsciiWord
    rw [Text.isAsciiWord, hword, Bool.true_or]
  · simpa using List.all_eq_true.1 hcs c (List.contains_iff_mem.1 hmem)

theorem contains_selectorStart
    (c : Char) :
    selectorStart.contains c = isSelectorStart c := by
  apply CharSet.contains_eq_of_ascii (by decide)
  · intro d hd
    exact lt_of_isAlphanum_or (by decide) hd
  · decide

theorem contains_selectorRest
    (c : Char) :
    selectorRest.contains c = isSelectorChar c := by
  apply CharSet.contains_eq_of_ascii (by decide)
  · intro d hd
    exact lt_of_isAlphanum_or (by decide) hd
  · decide

/-! ## The patterns -/

namespace Styles

/-- Blanks and a mark. -/
def closedBy (mark : Char) : Plain :=
  .seq (.many .blank true) (.one (.single mark))

def selector : Plain :=
  .seq (.one selectorStart) (.seq (.run selectorRest) (closedBy '\x7b'))

def property : Plain :=
  .seq (.many .blank true) (.seq (.run nameLetters) (closedBy ':'))

/-- What goes on a value behind its colon. -/
def valueBehind : Plain :=
  .seq (.many .blank true) (.seq (.run (CharSet.single ';').compl) (.one (.single ';')))

def value : Plain :=
  .seq (.one (.single ':')) valueBehind

def comment : Plain :=
  .enclosed ['/', '*'] ['*', '/']

def delimiters : CharSet :=
  .unions ("\x7b\x7d;".toList.map CharSet.single)

theorem cssPatterns_eq :
    cssPatterns
      =
    [(.selector, selector), (.property, property), (.value, value), (.comment, comment),
     (.delimiter, .one delimiters), (.whitespace, .run .blank),
     (.unknown, .one .all)] := by
  rfl

theorem text?_closedBy
    {mark : Char}
    (hmark : CharSet.blank.apart (.single mark) = true)
    (input : List Char) :
    (closedBy mark).text? input = blanksTo? mark input := by
  have hblank : CharSet.blank.contains = Text.isBlank := funext CharSet.contains_blank
  rw [closedBy, Plain.text?_many_seq rfl rfl (by simpa [Plain.starts] using hmark), hblank]
  unfold blanksTo?
  cases input.dropWhile Text.isBlank with
  | nil =>
      rw [Plain.text?_nil rfl]
      rfl
  | cons c rest =>
      rw [Plain.text?_one, CharSet.contains_single_eq]
      by_cases hc : c = mark
      · simp [hc]
      · simp [hc, Ne.symm hc]

theorem text?_selector
    (input : List Char) :
    selector.text? input = selector? input := by
  have hchars : selectorRest.contains = isSelectorChar := funext contains_selectorRest
  cases input with
  | nil =>
      exact Plain.text?_nil rfl
  | cons c rest =>
      rw [selector, Plain.text?_one_seq rfl rfl, Plain.text?_run_seq rfl rfl (by decide),
        text?_closedBy (by decide), contains_selectorStart, hchars, selector?]
      cases isSelectorStart c with
      | false =>
          rfl
      | true =>
          cases hbody : (rest.takeWhile isSelectorChar).isEmpty with
          | true =>
              rfl
          | false =>
              simp [Function.comp_def]

theorem text?_property
    (input : List Char) :
    property.text? input = property? input := by
  have hblank : CharSet.blank.contains = Text.isBlank := funext CharSet.contains_blank
  have hletters : nameLetters.contains = isNameLetter := funext contains_nameLetters
  rw [property, Plain.text?_many_seq rfl rfl (by decide),
    Plain.text?_run_seq rfl rfl (by decide), text?_closedBy (by decide), hblank, hletters]
  unfold property?
  dsimp only
  split
  · rfl
  · rw [Option.map_map]
    congr 1
    funext w
    simp

/-- The blanks are not told from the text behind them: a value goes on with characters
other than a semicolon, one at least, and a semicolon. -/
theorem accepts_valueBehind
    {before : Option Char} {w rest : List Char} :
    valueBehind.Accepts before w rest
      ↔
    ∃ u, w = u ++ [';'] ∧ ';' ∉ u ∧ u ≠ [] := by
  have hsemicolon : Text.isBlank ';' = false := by
    decide
  simp only [valueBehind, Plain.Accepts, Plain.accepts_run, CharSet.contains_single,
    CharSet.contains_compl_single, CharSet.contains_blank]
  constructor
  · rintro ⟨blanks, _, rfl, hblanks, u, _, rfl, ⟨hne, hu⟩, _, rfl, rfl⟩
    refine ⟨blanks ++ u, (List.append_assoc _ _ _).symm, ?_, by simp [hne]⟩
    intro hmem
    rcases List.mem_append.1 hmem with hmem | hmem
    · rw [hblanks _ hmem] at hsemicolon
      cases hsemicolon
    · exact hu _ hmem rfl
  · rintro ⟨u, rfl, hnot, hne⟩
    refine ⟨[], u ++ [';'], rfl, by simp, u, [';'], rfl, ⟨hne, ?_⟩, ';', rfl, rfl⟩
    rintro c hc rfl
    exact hnot hc

theorem text?_valueBehind
    (input : List Char) :
    valueBehind.text? input
      =
    if input.head? = some ';' then none else Text.through? [';'] input := by
  have hsole : valueBehind.Sole := by
    intro v w rest more hsplit hv hw
    obtain ⟨u, rfl, hu, _⟩ := accepts_valueBehind.1 hv
    obtain ⟨u', rfl, hu', _⟩ := accepts_valueBehind.1 hw
    rw [List.append_assoc, List.append_assoc] at hsplit
    rw [append_cons_left_inj hu hu' hsplit]
  apply Option.ext
  intro w
  rw [hsole.text?_eq_some_iff rfl]
  simp only [accepts_valueBehind, Option.ite_none_left_eq_some,
    Text.through?_singleton_eq_some_iff]
  constructor
  · rintro ⟨rest, rfl, u, rfl, hu, hne⟩
    refine ⟨?_, u, rest, rfl, hu, rfl⟩
    obtain ⟨c, u, rfl⟩ := List.exists_cons_of_ne_nil hne
    simpa using fun hc => hu (by simp [hc])
  · rintro ⟨hhead, u, rest, rfl, hu, rfl⟩
    refine ⟨rest, rfl, u, rfl, hu, ?_⟩
    rintro rfl
    exact hhead rfl

theorem text?_value
    (input : List Char) :
    value.text? input = value? input := by
  unfold value?
  split
  · next c rest =>
      rw [value, Plain.text?_single_seq rfl rfl, if_pos rfl, text?_valueBehind]
      by_cases hc : c = ';' <;> simp [hc]
  · next hother =>
      match input with
      | [] =>
          exact Plain.text?_nil rfl
      | [c] =>
          rw [value, Plain.text?_single_seq rfl rfl, text?_valueBehind]
          simp [Text.through?]
      | c :: d :: rest =>
          rw [value, Plain.text?_single_seq rfl rfl, if_neg]
          rintro rfl
          exact hother d rest rfl

theorem text?_comment
    (input : List Char) :
    comment.text? input = starComment? input := by
  unfold starComment?
  split
  · next rest =>
      exact @Plain.text?_enclosed ['/', '*'] ['*', '/'] (List.cons_ne_nil _ _) rest
  · next hother =>
      apply Plain.text?_enclosed_of_not_prefix
      rintro ⟨rest, rfl⟩
      exact hother rest rfl

end Styles

/-- The table of CSS finds what the lexer of style sheets finds. -/
theorem findMatch_styles
    (c : Char) (rest : List Char) :
    (builtin .css).findMatch (c :: rest) = some (styleAt c rest) := by
  have hdelimiters : Styles.delimiters.contains c = ['\x7b', '\x7d', ';'].contains c :=
    CharSet.contains_eq_of_lists (by decide) c
  have hblank : CharSet.blank.contains = Text.isBlank := funext CharSet.contains_blank
  rw [findMatch_builtin, patterns, Styles.cssPatterns_eq]
  simp only [firstText?_cons, firstText?_nil, Styles.text?_selector, Styles.text?_property,
    Styles.text?_value, Styles.text?_comment, Plain.text?_one, Plain.text?_run,
    hdelimiters, hblank, CharSet.contains_all, if_true, Option.map_some]
  unfold styleAt
  cases selector? (c :: rest) with
  | some w =>
      rfl
  | none =>
      cases property? (c :: rest) with
      | some w =>
          rfl
      | none =>
          cases value? (c :: rest) with
          | some w =>
              rfl
          | none =>
              cases starComment? (c :: rest) with
              | some w =>
                  rfl
              | none =>
                  simp only [Option.map_none, Option.none_or, List.contains_iff_mem]
                  split_ifs <;> rfl

-- A blank stands for the text of a value.
example : styleAt ':' [' ', ';', 'x'] = (.value, [':', ' ', ';']) := by
  decide

end Table
end TableLexer
