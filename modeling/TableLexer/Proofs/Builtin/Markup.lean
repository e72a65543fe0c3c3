import TableLexer.Proofs.Builtin.Taken

/-!
# Markup

The table of HTML finds what a lexer finds that looks at the first character
(`markupAt`).  A `<` begins a tag, a comment or a delimiter, a `>` a text or a
delimiter, a blank an attribute or blanks, and any other character nothing.

The parts of its patterns follow one another without a choice: names end where a
character comes that they cannot hold, and values and comments where they are closed.
So each pattern takes what its parts take one after the other, whatever the markup.
-/

namespace TableLexer
namespace Table

open Pattern

/-- The characters that the name of a tag goes on with. -/
def isTagChar (c : Char) : Bool :=
  c.isAlphanum || c == '-'

/-- The characters of the names of attributes. -/
def isNameLetter (c : Char) : Bool :=
  c.isAlpha || c == '-'

/-- The name of a tag at the head of a text. -/
def tagName? : List Char → Option (List Char)
  | [] => none
  | c :: rest => if c.isAlpha then some (c :: rest.takeWhile isTagChar) else none

/-- What goes on a tag behind its `<`. -/
def tagBehind? : List Char → Option (List Char)
  | '/' :: rest => (tagName? rest).map ('/' :: ·)
  | rest => tagName? rest

/-- What goes on a comment behind its `<`. -/
def commentBehind? : List Char → Option (List Char)
  | '!' :: '-' :: '-' :: rest =>
    (Text.through? ['-', '-', '>'] rest).map (['!', '-', '-'] ++ ·)
  | _ => none

/-- The text behind a `>`. -/
def textBehind? : List Char → Option (List Char)
  | [] => none
  | c :: rest => if c = '<' then none else some ((c :: rest).takeWhile fun d => d != '<')

/-- A name, `="` and a value up to the next quotation mark. -/
def assignment? (input : List Char) : Option (List Char) :=
  let name := input.takeWhile isNameLetter
  match input.dropWhile isNameLetter with
  | '=' :: '"' :: rest =>
    if name.isEmpty then none else (Text.through? ['"'] rest).map (name ++ ['=', '"'] ++ ·)
  | _ => none

/-- What begins with the character in markup. -/
def markupAt
    (c : Char) (rest : List Char) :
    Kind × List Char :=
  if c = '<' then
    match tagBehind? rest, commentBehind? rest with
    | some w, _ => (.tag, '<' :: w)
    | none, some w => (.comment, '<' :: w)
    | none, none => (.delimiter, ['<'])
  else if c = '>' then
    match textBehind? rest with
    | some w => (.text, '>' :: w)
    | none => (.delimiter, ['>'])
  else if Text.isBlank c then
    match assignment? rest with
    | some w => (.attr, c :: w)
    | none => (.whitespace, (c :: rest).takeWhile Text.isBlank)
  else
    (.unknown, [c])

/-! ## The sets -/

theorem lt_of_isTagChar
    {c : Char}
    (h : isTagChar c = true) :
    c.toNat < 128 := by
  rcases (Bool.or_eq_true _ _).mp h with hword | hdash
  · apply CharSet.lt_of_isAsciiWord
    rw [Text.isAsciiWord, hword, Bool.true_or]
  · rw [beq_iff_eq.1 hdash]
    decide

theorem isTagChar_of_isNameLetter
    {c : Char}
    (h : isNameLetter c = true) :
    isTagChar c = true := by
  unfold isNameLetter at h
  unfold isTagChar Char.isAlphanum
  simp only [Bool.or_eq_true] at h ⊢
  tauto

theorem contains_asciiLetter
    (c : Char) :
    CharSet.asciiLetter.contains c = c.isAlpha := by
  apply CharSet.contains_eq_of_ascii (by decide)
  · intro d hd
    apply lt_of_isTagChar
    simp [isTagChar, Char.isAlphanum, hd]
  · decide

theorem contains_nameLetters
    (c : Char) :
    nameLetters.contains c = isNameLetter c := by
  apply CharSet.contains_eq_of_ascii (by decide)
  · intro d hd
    exact lt_of_isTagChar (isTagChar_of_isNameLetter hd)
  · decide

theorem contains_tagChars
    (c : Char) :
    (nameLetters.union .asciiDigit).contains c = isTagChar c := by
  apply CharSet.contains_eq_of_ascii (by decide)
  · intro d hd
    exact lt_of_isTagChar hd
  · decide

theorem contains_notTagStart
    (c : Char) :
    (CharSet.single '<').compl.contains c = (c != '<') := by
  rw [Bool.eq_iff_iff, CharSet.contains_compl_single, bne_iff_ne]

/-! ## The patterns -/

namespace Markup

def tagName : Plain :=
  .seq (.one .asciiLetter) (.many (nameLetters.union .asciiDigit) true)

def tag : Plain :=
  .seq (.one (.single '<')) (.seq (.opt (.one (.single '/')) true) tagName)

def assignment : Plain :=
  .seq (.run nameLetters)
    (.seq (.ofText ['=', '"'])
      (.seq (.many (CharSet.single '"').compl true) (.one (.single '"'))))

def attr : Plain :=
  .seq (.one .blank) assignment

def text : Plain :=
  .seq (.one (.single '>')) (.run (CharSet.single '<').compl)

def comment : Plain :=
  .enclosed ['<', '!', '-', '-'] ['-', '-', '>']

theorem htmlPatterns_eq :
    htmlPatterns
      =
    [(.tag, tag), (.attr, attr), (.text, text), (.comment, comment),
     (.delimiter, .one ((CharSet.single '<').union (.single '>'))),
     (.whitespace, .run .blank), (.unknown, .one .all)] := by
  rfl

theorem text?_tagName
    (input : List Char) :
    tagName.text? input = tagName? input := by
  have hchars : (nameLetters.union .asciiDigit).contains = isTagChar :=
    funext contains_tagChars
  cases input with
  | nil =>
      exact Plain.text?_nil rfl
  | cons c rest =>
      rw [tagName, Plain.text?_seq_many rfl, Plain.text?_one, contains_asciiLetter, hchars,
        tagName?]
      split <;> rfl

theorem text?_tagBehind
    (rest : List Char) :
    (Plain.seq (.opt (.one (.single '/')) true) tagName).text? rest = tagBehind? rest := by
  rw [Plain.text?_opt_seq rfl, text?_tagName]
  unfold tagBehind?
  split
  · next rest =>
      rw [Plain.text?_single_seq rfl rfl, if_pos rfl, text?_tagName]
      exact Option.or_none
  · next hslash =>
      have hnone : (Plain.seq (.one (.single '/')) tagName).text? rest = none := by
        cases rest with
        | nil =>
            exact Plain.text?_nil rfl
        | cons d rest =>
            rw [Plain.text?_single_seq rfl rfl, if_neg]
            rintro rfl
            exact hslash rest rfl
      rw [hnone, Option.none_or]

theorem text?_tag
    (c : Char) (rest : List Char) :
    tag.text? (c :: rest) =
      if c = '<' then (tagBehind? rest).map ('<' :: ·) else none := by
  rw [tag, Plain.text?_single_seq rfl rfl, text?_tagBehind]

theorem text?_assignment
    (input : List Char) :
    assignment.text? input = assignment? input := by
  have hletters : nameLetters.contains = isNameLetter := funext contains_nameLetters
  rw [assignment, Plain.text?_run_seq rfl rfl (by decide), Plain.text?_ofText_seq rfl rfl,
    Plain.text?_through, hletters]
  unfold assignment?
  dsimp only
  split
  · split <;> rfl
  · generalize input.dropWhile isNameLetter = behind
    split
    · next hprefix =>
        obtain ⟨rest, rfl⟩ := List.isPrefixOf_iff_prefix.1 hprefix
        simp [Function.comp_def]
    · next hprefix =>
        rw [List.isPrefixOf_iff_prefix] at hprefix
        split
        · next rest =>
            exact absurd (List.prefix_append ['=', '"'] rest) hprefix
        · rfl

theorem text?_attr
    (c : Char) (rest : List Char) :
    attr.text? (c :: rest)
      =
    if Text.isBlank c then (assignment? rest).map (c :: ·) else none := by
  rw [attr, Plain.text?_one_seq rfl rfl, text?_assignment, CharSet.contains_blank]

theorem text?_text
    (c : Char) (rest : List Char) :
    text.text? (c :: rest) =
      if c = '>' then (textBehind? rest).map ('>' :: ·) else none := by
  have hbehind : (Plain.run (CharSet.single '<').compl).text? rest = textBehind? rest := by
    have hcontains : (CharSet.single '<').compl.contains = fun d => d != '<' :=
      funext contains_notTagStart
    cases rest with
    | nil =>
        exact Plain.text?_nil rfl
    | cons d rest =>
        rw [Plain.text?_run, hcontains, textBehind?]
        by_cases hd : d = '<' <;> simp [hd]
  rw [text, Plain.text?_single_seq rfl rfl, hbehind]

theorem text?_comment
    (c : Char) (rest : List Char) :
    comment.text? (c :: rest) =
      if c = '<' then (commentBehind? rest).map ('<' :: ·) else none := by
  unfold comment
  by_cases hc : c = '<'
  · subst hc
    rw [if_pos rfl]
    unfold commentBehind?
    split
    · next rest =>
        have henclosed :=
          @Plain.text?_enclosed ['<', '!', '-', '-'] ['-', '-', '>']
            (List.cons_ne_nil _ _) rest
        simp only [List.cons_append, List.nil_append] at henclosed
        rw [henclosed, Option.map_map]
        rfl
    · next hother =>
        rw [Plain.text?_enclosed_of_not_prefix]
        · rfl
        · rintro ⟨more, hmore⟩
          exact hother more (List.cons.inj hmore).2.symm
  · rw [if_neg hc, Plain.text?_enclosed_of_not_prefix]
    rintro ⟨more, hmore⟩
    exact hc (List.cons.inj hmore).1.symm

end Markup

/-- The table of HTML finds what the lexer of markup finds. -/
theorem findMatch_markup
    (c : Char) (rest : List Char) :
    (builtin .html).findMatch (c :: rest) = some (markupAt c rest) := by
  have hbrackets :
      ((CharSet.single '<').union (.single '>')).contains c = ['<', '>'].contains c :=
    CharSet.contains_eq_of_lists (by decide) c
  have hblank : CharSet.blank.contains = Text.isBlank := funext CharSet.contains_blank
  rw [findMatch_builtin, patterns, Markup.htmlPatterns_eq]
  simp only [firstText?_cons, firstText?_nil, Markup.text?_tag, Markup.text?_attr,
    Markup.text?_text, Markup.text?_comment, Plain.text?_one, Plain.text?_run,
    hbrackets, hblank, CharSet.contains_all, if_true, Option.map_some]
  unfold markupAt
  by_cases hopen : c = '<'
  · subst hopen
    have hspace : Text.isBlank '<' = false := by
      decide
    simp only [if_true, hspace]
    cases tagBehind? rest <;> cases commentBehind? rest <;> rfl
  · by_cases hclose : c = '>'
    · subst hclose
      have hspace : Text.isBlank '>' = false := by
        decide
      simp only [if_neg hopen, if_true, hspace]
      cases textBehind? rest <;> rfl
    · simp only [if_neg hopen, if_neg hclose]
      by_cases hspace : Text.isBlank c = true
      · simp only [if_pos hspace]
        cases assignment? rest <;> simp [hopen, hclose]
      · simp [hspace, hopen, hclose]

end Table
end TableLexer
