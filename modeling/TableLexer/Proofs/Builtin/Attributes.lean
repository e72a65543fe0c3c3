import TableLexer.Proofs.Builtin.Markup
import TableLexer.Proofs.Builtin.Normal

/-!
# Attributes behind spacing

In markup the pattern of attributes begins with one blank, and the pattern of blanks takes
all there are.  So it depends on the spacing what becomes of an attribute behind the name
of a tag.  Behind a single blank it is found, whatever the blank is.  Behind two or more no
name follows the first of them, and the blanks are taken together; then no pattern is left
that begins with a name, and the name falls into single characters.

In both cases the segmentation is known up to the end of the attribute or to the beginning
of its value (`SpacedAttribute.segmentation`), and a scan goes on with the rest of the
source as if it stood alone.
-/

namespace TableLexer
namespace Table

open Pattern

/-- The name of a tag, spacing and an attribute. -/
structure SpacedAttribute where
  /-- The first letter of the name of the tag. -/
  letter : Char
  /-- What follows it in the name. -/
  more : List Char
  spacing : List Char
  name : List Char
  value : List Char
  isAlpha_letter : letter.isAlpha = true
  isTagChar_more : ∀ c ∈ more, isTagChar c = true
  spacing_ne_nil : spacing ≠ []
  isBlank_spacing : ∀ c ∈ spacing, Text.isBlank c = true
  name_ne_nil : name ≠ []
  isNameLetter_name : ∀ c ∈ name, isNameLetter c = true
  not_quoted_value : '"' ∉ value

/-- A character that passes a test is not one that fails it. -/
theorem ne_of_test
    {test : Char → Bool} {c d : Char}
    (hc : test c = true)
    (hd : test d = false) :
    c ≠ d := by
  rintro rfl
  rw [hc] at hd
  cases hd

theorem not_isTagChar_of_isBlank
    {c : Char}
    (h : Text.isBlank c = true) :
    isTagChar c = false := by
  have hblank : CharSet.blank.contains c = true := by
    rw [CharSet.contains_blank, h]
  rw [← contains_tagChars, ← Bool.not_eq_true]
  exact CharSet.not_contains_of_apart (by decide) hblank

theorem not_isNameLetter_of_isBlank
    {c : Char}
    (h : Text.isBlank c = true) :
    isNameLetter c = false := by
  rw [← Bool.not_eq_true]
  intro hletter
  have htag := isTagChar_of_isNameLetter hletter
  rw [not_isTagChar_of_isBlank h] at htag
  cases htag

/-- The characters of an attribute in front of its value. -/
def isAssignmentChar (c : Char) : Bool :=
  isNameLetter c || c == '=' || c == '"'

theorem isAssignmentChar_of_isNameLetter
    {c : Char}
    (h : isNameLetter c = true) :
    isAssignmentChar c = true := by
  simp [isAssignmentChar, h]

theorem not_isBlank_of_isAssignmentChar
    {c : Char}
    (h : isAssignmentChar c = true) :
    Text.isBlank c = false := by
  cases hblank : Text.isBlank c with
  | false =>
      rfl
  | true =>
      have hequals : c ≠ '=' := ne_of_test hblank (by decide)
      have hquote : c ≠ '"' := ne_of_test hblank (by decide)
      simp [isAssignmentChar, not_isNameLetter_of_isBlank hblank, hequals, hquote] at h

/-- No form of markup begins with a character of an attribute. -/
theorem markupAt_assignmentChar
    {c : Char}
    (h : isAssignmentChar c = true)
    (rest : List Char) :
    markupAt c rest = (.unknown, [c]) := by
  have hopen : c ≠ '<' := ne_of_test h (by decide)
  have hclose : c ≠ '>' := ne_of_test h (by decide)
  have hblank : ¬ Text.isBlank c = true := by
    rw [not_isBlank_of_isAssignmentChar h]
    exact Bool.false_ne_true
  rw [markupAt, if_neg hopen, if_neg hclose]
  exact if_neg hblank

theorem markupAt_of_isBlank
    {c : Char}
    (h : Text.isBlank c = true)
    (rest : List Char) :
    markupAt c rest
      =
    match assignment? rest with
    | some w => (.attr, c :: w)
    | none => (.whitespace, (c :: rest).takeWhile Text.isBlank) := by
  have hopen : c ≠ '<' := ne_of_test h (by decide)
  have hclose : c ≠ '>' := ne_of_test h (by decide)
  rw [markupAt, if_neg hopen, if_neg hclose]
  exact if_pos h

theorem assignment?_of_isBlank
    {c : Char}
    (h : Text.isBlank c = true)
    (rest : List Char) :
    assignment? (c :: rest) = none := by
  have hletter := not_isNameLetter_of_isBlank h
  unfold assignment?
  simp only [List.takeWhile_cons, List.dropWhile_cons, hletter]
  split <;> rfl

namespace SpacedAttribute

variable (a : SpacedAttribute)

/-- The tag as it is found. -/
def tag : List Char :=
  '<' :: a.letter :: a.more

/-- The attribute without its spacing. -/
def assignment : List Char :=
  a.name ++ ['=', '"'] ++ a.value ++ ['"']

def text : List Char :=
  a.tag ++ a.spacing ++ a.assignment

/-- The spans of the tag and of what is found of the attribute. -/
def spans : List Span :=
  ⟨some .tag, a.tag⟩ ::
    if a.spacing.length = 1 then
      [⟨some .attr, a.spacing ++ a.assignment⟩]
    else
      ⟨some .whitespace, a.spacing⟩ :: (a.name ++ ['=', '"']).map fun c =>
        ⟨some .unknown, [c]⟩

/-- The source behind these spans. -/
def behind (rest : List Char) : List Char :=
  if a.spacing.length = 1 then rest else a.value ++ '"' :: rest

theorem markupAt_tag
    (rest : List Char) :
    markupAt '<' (a.letter :: a.more ++ a.spacing ++ rest) = (.tag, a.tag) := by
  have hmore : (a.more ++ (a.spacing ++ rest)).takeWhile isTagChar = a.more := by
    rw [takeWhile_append_eq_iff]
    refine ⟨a.isTagChar_more, ?_⟩
    obtain ⟨c, spacing, hspacing⟩ := List.exists_cons_of_ne_nil a.spacing_ne_nil
    have hblank := a.isBlank_spacing c (by simp [hspacing])
    simp [hspacing, not_isTagChar_of_isBlank hblank]
  have hslash : a.letter ≠ '/' := ne_of_test a.isAlpha_letter (by decide)
  have hbehind :
      tagBehind? (a.letter :: (a.more ++ (a.spacing ++ rest))) =
        some (a.letter :: a.more) := by
    unfold tagBehind?
    split
    · next heq =>
        exact absurd (List.cons.inj heq).1 hslash
    · simp [tagName?, a.isAlpha_letter, hmore]
  simp only [List.cons_append, List.append_assoc, markupAt, if_true, hbehind]
  rfl

theorem assignment?_assignment
    (rest : List Char) :
    assignment? (a.assignment ++ rest) = some a.assignment := by
  have hequals : isNameLetter '=' = false := by
    decide
  have hname :
      (a.name ++ '=' :: '"' :: (a.value ++ '"' :: rest)).takeWhile isNameLetter = a.name :=
    takeWhile_append_eq_iff.2 ⟨a.isNameLetter_name, by simp [hequals]⟩
  have hbehind :
      (a.name ++ '=' :: '"' :: (a.value ++ '"' :: rest)).dropWhile isNameLetter
        =
      '=' :: '"' :: (a.value ++ '"' :: rest) := by
    rw [List.dropWhile_append_of_pos a.isNameLetter_name,
      List.dropWhile_cons_of_neg (by simp [hequals])]
  have hvalue : Text.through? ['"'] (a.value ++ '"' :: rest) = some (a.value ++ ['"']) :=
    Text.through?_singleton_eq_some_iff.2 ⟨a.value, rest, rfl, a.not_quoted_value, by simp⟩
  simp [assignment?, assignment, hname, hbehind, hvalue, a.name_ne_nil]

/-- Behind a single blank the attribute is found. -/
theorem markupAt_spacing_of_single
    {c : Char}
    (hspacing : a.spacing = [c])
    (rest : List Char) :
    markupAt c (a.assignment ++ rest) = (.attr, c :: a.assignment) := by
  rw [markupAt_of_isBlank (a.isBlank_spacing c (by simp [hspacing])),
    a.assignment?_assignment]

/-- Two blanks or more are taken together. -/
theorem markupAt_spacing_of_more
    {c d : Char} {blanks : List Char}
    (hspacing : a.spacing = c :: d :: blanks)
    (rest : List Char) :
    markupAt c (d :: blanks ++ (a.name ++ rest)) = (.whitespace, a.spacing) := by
  have hnone : assignment? (d :: blanks ++ (a.name ++ rest)) = none :=
    assignment?_of_isBlank (a.isBlank_spacing d (by simp [hspacing])) _
  have hrun : (a.spacing ++ (a.name ++ rest)).takeWhile Text.isBlank = a.spacing := by
    rw [takeWhile_append_eq_iff]
    refine ⟨a.isBlank_spacing, ?_⟩
    obtain ⟨e, name, hname⟩ := List.exists_cons_of_ne_nil a.name_ne_nil
    have hletter := a.isNameLetter_name e (by simp [hname])
    rw [hname, List.cons_append, List.head?_cons, Option.any_some]
    exact not_isBlank_of_isAssignmentChar (isAssignmentChar_of_isNameLetter hletter)
  rw [markupAt_of_isBlank (a.isBlank_spacing c (by simp [hspacing])), hnone]
  simp only
  rw [← hrun, hspacing]
  rfl

end SpacedAttribute

/-- Characters of an attribute are found one by one. -/
theorem segmentation_assignmentChars
    {cs rest : List Char} {after : List Span}
    (hcs : ∀ c ∈ cs, isAssignmentChar c = true)
    (h : (builtin .html).Segmentation rest after) :
    (builtin .html).Segmentation (cs ++ rest)
      (cs.map (fun c => ⟨some .unknown, [c]⟩) ++ after) := by
  induction cs with
  | nil =>
      exact h
  | cons c cs ih =>
      apply @Segmentation.taken _ _ [c]
      · rw [List.singleton_append]
        exact (findMatch_markup c _).trans
          (congrArg some (markupAt_assignmentChar (hcs c List.mem_cons_self) _))
      · exact ih fun d hd => hcs d (List.mem_cons_of_mem c hd)

namespace SpacedAttribute

variable (a : SpacedAttribute)

/-- The spans up to the end of the attribute, or to the beginning of its value. -/
theorem segmentation
    {rest : List Char} {after : List Span}
    (h : (builtin .html).Segmentation (a.behind rest) after) :
    (builtin .html).Segmentation (a.text ++ rest) (a.spans ++ after) := by
  have hsource : a.text ++ rest = a.tag ++ (a.spacing ++ (a.assignment ++ rest)) := by
    simp [text]
  rw [hsource]
  apply Segmentation.taken
  · have htag := a.markupAt_tag (a.assignment ++ rest)
    rw [List.append_assoc] at htag
    rw [tag, List.cons_append, findMatch_markup, htag]
    rfl
  · unfold behind at h
    split_ifs at h ⊢ with hlength
    · obtain ⟨c, hspacing⟩ := List.length_eq_one_iff.1 hlength
      rw [← List.append_assoc]
      apply Segmentation.taken
      · rw [hspacing, List.append_assoc, List.singleton_append, findMatch_markup,
          a.markupAt_spacing_of_single hspacing]
        rfl
      · exact h
    · obtain ⟨c, d, blanks, hspacing⟩ : ∃ c d blanks, a.spacing = c :: d :: blanks := by
        match hspacing : a.spacing with
        | [] =>
            exact absurd hspacing a.spacing_ne_nil
        | [c] =>
            exact absurd (congrArg List.length hspacing) hlength
        | c :: d :: blanks =>
            exact ⟨c, d, blanks, rfl⟩
      have hassignment :
          a.assignment ++ rest = (a.name ++ ['=', '"']) ++ (a.value ++ '"' :: rest) := by
        simp [assignment]
      rw [hassignment]
      apply Segmentation.taken
      · have hblanks :=
          a.markupAt_spacing_of_more hspacing (['=', '"'] ++ (a.value ++ '"' :: rest))
        rw [← List.append_assoc a.name] at hblanks
        rw [hspacing, List.cons_append, findMatch_markup, ← hspacing, ← hblanks]
      · apply segmentation_assignmentChars _ h
        intro e he
        rcases List.mem_append.1 he with he | he
        · exact isAssignmentChar_of_isNameLetter (a.isNameLetter_name e he)
        · exact List.all_eq_true.1 (by decide) e he

end SpacedAttribute

/-- The kinds and the texts of the tokens of markup. -/
def piecesOf
    (settings : ScanSettings)
    (source : List Char) :
    List (Kind × List Char) :=
  ((builtin .html).scan settings (.ofList source)).tokens.map fun k =>
    (k.kind, k.value.toList)

theorem piecesOf_eq_pieces
    {source : List Char} {spans : List Span}
    (settings : ScanSettings)
    (h : (builtin .html).Segmentation source spans) :
    piecesOf settings source = Span.pieces spans := by
  have hscan := @scan_eq_account _ spans (.ofList source) settings (by simpa using h)
  rw [piecesOf, hscan]
  exact Span.tokens_map_pieces settings spans

/-- Every text that is found is part of the source. -/
theorem infix_of_mem_piecesOf
    {settings : ScanSettings} {source : List Char} {kind : Kind} {text : List Char}
    (h : (kind, text) ∈ piecesOf settings source) :
    text <:+: source := by
  obtain ⟨spans, hspans⟩ := Segmentation.exists_spans (builtin .html) source
  rw [piecesOf_eq_pieces settings hspans, Span.pieces, List.mem_filterMap] at h
  obtain ⟨s, hs, hpiece⟩ := h
  obtain ⟨rfl, _⟩ := Span.piece?_eq_some_iff.1 hpiece
  obtain ⟨before, after, rfl⟩ := List.append_of_mem hs
  exact ⟨Span.joined before, Span.joined after, by simp [← hspans.joined_eq]⟩

namespace SpacedAttribute

variable (a : SpacedAttribute)

/-- The tokens of the tag and of the attribute, and those of the source behind. -/
theorem piecesOf_text
    (settings : ScanSettings)
    (rest : List Char) :
    piecesOf settings (a.text ++ rest)
      =
    Span.pieces a.spans ++ piecesOf settings (a.behind rest) := by
  obtain ⟨after, hafter⟩ := Segmentation.exists_spans (builtin .html) (a.behind rest)
  rw [piecesOf_eq_pieces settings (a.segmentation hafter),
    piecesOf_eq_pieces settings hafter]
  exact List.filterMap_append

/-- The value with its closing mark is too short for the assignment, if no other
quotation mark follows. -/
theorem not_infix_of_value
    {rest : List Char}
    (hrest : '"' ∉ rest) :
    ¬ a.assignment <:+: a.value ++ '"' :: rest := by
  intro hinfix
  have hcount := hinfix.sublist.count_le '"'
  have hvalue := List.count_eq_zero.2 a.not_quoted_value
  have hzero := List.count_eq_zero.2 hrest
  simp [assignment, hvalue, hzero] at hcount

end SpacedAttribute

/--
An attribute behind the name of a tag, for every spacing, name and value and whatever
follows.  Behind a single blank the attribute is found with its spacing.  Behind more
blanks its name, the equals sign and the opening mark are found as single
characters.  In both cases the scan goes on as the scan of the rest.  So if no other
quotation mark follows, the attribute is found exactly if its spacing is a single
blank.
-/
theorem scan_attribute_behind_spacing
    (settings : ScanSettings)
    (a : SpacedAttribute)
    (rest : List Char) :
    (a.spacing.length = 1 →
      piecesOf settings (a.text ++ rest)
        =
      [(.tag, a.tag), (.attr, a.spacing ++ a.assignment)] ++ piecesOf settings rest) ∧
    (a.spacing.length ≠ 1 →
      piecesOf settings (a.text ++ rest)
        =
      (.tag, a.tag) :: (a.name ++ ['=', '"']).map (fun c => (.unknown, [c])) ++
        piecesOf settings (a.value ++ '"' :: rest)) ∧
    ('"' ∉ rest →
      ((∃ text, (.attr, text) ∈ piecesOf settings (a.text ++ rest) ∧ a.assignment <:+ text)
        ↔
      a.spacing.length = 1)) := by
  have hone :
      a.spacing.length = 1 →
      piecesOf settings (a.text ++ rest)
        =
      [(.tag, a.tag), (.attr, a.spacing ++ a.assignment)] ++ piecesOf settings rest := by
    intro hlength
    rw [a.piecesOf_text, SpacedAttribute.spans, SpacedAttribute.behind, if_pos hlength,
      if_pos hlength]
    rfl
  have hmore :
      a.spacing.length ≠ 1 →
      piecesOf settings (a.text ++ rest)
        =
      (.tag, a.tag) :: (a.name ++ ['=', '"']).map (fun c => (.unknown, [c])) ++
        piecesOf settings (a.value ++ '"' :: rest) := by
    intro hlength
    have hletters :
        Span.pieces ((a.name ++ ['=', '"']).map fun c => ⟨some .unknown, [c]⟩)
          =
        (a.name ++ ['=', '"']).map fun c => (.unknown, [c]) := by
      rw [Span.pieces, List.filterMap_map, ← List.filterMap_eq_map]
      rfl
    rw [a.piecesOf_text, SpacedAttribute.spans, SpacedAttribute.behind, if_neg hlength,
      if_neg hlength, Span.pieces_cons_of_emitted rfl,
      Span.pieces_cons_of_filtered rfl, hletters]
  refine ⟨hone, hmore, ?_⟩
  intro hrest
  constructor
  · rintro ⟨text, htext, hsuffix⟩
    by_contra hlength
    rw [hmore hlength] at htext
    simp only [List.cons_append, List.mem_cons, List.mem_append, List.mem_map] at htext
    rcases htext with hkind | ⟨_, _, hkind⟩ | hbehind
    · cases hkind
    · cases hkind
    · exact a.not_infix_of_value hrest
        (hsuffix.isInfix.trans (infix_of_mem_piecesOf hbehind))
  · intro hlength
    refine ⟨a.spacing ++ a.assignment, ?_, List.suffix_append _ _⟩
    rw [hone hlength]
    simp

/-- A line feed is a single blank. -/
theorem scan_attribute_behind_newline :
    let a : SpacedAttribute :=
      ⟨'p', [], ['\n'], ['i', 'd'], ['x'], by decide,
       List.all_eq_true.1 (by decide), by decide,
        List.all_eq_true.1 (by decide), by decide,
        List.all_eq_true.1 (by decide), by decide⟩
    a.text ++ ['>'] = "<p\nid=\"x\">".toList ∧
    piecesOf ⟨true, false⟩ (a.text ++ ['>'])
      =
    [(.tag, "<p".toList), (.attr, "\nid=\"x\"".toList), (.delimiter, ['>'])] ∧
    ∃ text,
      (.attr, text) ∈ piecesOf ⟨true, false⟩ (a.text ++ ['>']) ∧
      a.assignment <:+ text := by
  intro a
  obtain ⟨hone, _, hfound⟩ := scan_attribute_behind_spacing ⟨true, false⟩ a ['>']
  have hrest : (builtin .html).Segmentation ['>'] [⟨some .delimiter, ['>']⟩] :=
    @Segmentation.taken _ _ ['>'] [] [] (findMatch_markup '>' []) .nil
  refine ⟨rfl, ?_, (hfound (by decide)).2 rfl⟩
  rw [hone rfl, piecesOf_eq_pieces _ hrest]
  rfl

/-- Behind two blanks the attribute is not found. -/
theorem scan_splits_spaced_attribute :
    let a : SpacedAttribute :=
      ⟨'a', [], [' ', ' '], ['b'], ['c'], by decide,
       List.all_eq_true.1 (by decide), by decide,
        List.all_eq_true.1 (by decide), by decide,
        List.all_eq_true.1 (by decide), by decide⟩
    a.text = "<a  b=\"c\"".toList ∧
    ¬ ∃ text, (.attr, text) ∈ piecesOf ⟨true, false⟩ "<a  b=\"c\"".toList := by
  intro a
  have hvalue :
      (builtin .html).Segmentation ['c', '"']
        [⟨some .unknown, ['c']⟩, ⟨some .unknown, ['"']⟩] :=
    @segmentation_assignmentChars ['c', '"'] [] [] (List.all_eq_true.1 (by decide)) .nil
  have hfound :=
    piecesOf_eq_pieces ⟨true, false⟩ (@SpacedAttribute.segmentation a [] _ hvalue)
  refine ⟨rfl, ?_⟩
  rintro ⟨text, htext⟩
  rw [show "<a  b=\"c\"".toList = a.text ++ [] from rfl, hfound, Span.pieces,
    List.mem_filterMap] at htext
  obtain ⟨s, hs, hpiece⟩ := htext
  obtain ⟨rfl, _⟩ := Span.piece?_eq_some_iff.1 hpiece
  simp [a, SpacedAttribute.spans] at hs

end Table
end TableLexer
