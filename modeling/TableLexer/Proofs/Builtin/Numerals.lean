import TableLexer.Proofs.Builtin.Numbers
import TableLexer.Proofs.Builtin.Taken
import TableLexer.Proofs.Text.Decimals

/-!
# Numbers are longest matches

A numeral has up to four parts, and all but its first digits can be missing
(`IsNumeral`).  A text that begins with a digit may begin with several numerals, and a
number has to end where no word goes on (`IsNumberOf`): the pattern tries the parts one
by one and takes back what leaves it in the middle of a word.

Every part begins with a character that the part before it cannot hold, so whatever is
taken back, the next part takes nothing there.  This makes the pattern one that prefers
longer texts (`Plain.eager`), and it takes the longest number that there is.
-/

namespace TableLexer

/-- Nothing, or in Java the letter of a type. -/
def IsTypeLetter
    (l : Language) (w : List Char) :
    Prop :=
  w = [] ∨ l = .java ∧ ∃ c ∈ "fFdDlL".toList, w = [c]

/-- The texts that numbers are written as. -/
def IsNumeral
    (l : Language) (w : List Char) :
    Prop :=
  ∃ whole fraction exponent letter,
    w = whole ++ (fraction ++ (exponent ++ letter)) ∧
      IsDigits whole ∧ IsFraction fraction ∧ IsExponent exponent ∧ IsTypeLetter l letter

/-- The numeral begins the text, and no word goes on behind it. -/
def IsNumberOf
    (l : Language) (input w : List Char) :
    Prop :=
  IsNumeral l w ∧ ∃ rest, input = w ++ rest ∧ rest.head?.any Text.isAsciiWord = false

/-! ## The ends of numerals -/

section Ends

variable {test : Char → Bool} {u v w : List Char}

theorem any_getLast?_append_right
    (u : List Char)
    (h : v.getLast?.any test = true) :
    (u ++ v).getLast?.any test = true := by
  cases hv : v.getLast? with
  | none =>
      rw [hv] at h
      cases h
  | some c =>
      rw [List.getLast?_append, hv, Option.some_or, ← hv]
      exact h

theorem any_getLast?_append
    (hu : u.getLast?.any test = true)
    (hv : v = [] ∨ v.getLast?.any test = true) :
    (u ++ v).getLast?.any test = true := by
  rcases hv with rfl | hv
  · rwa [List.append_nil]
  · exact any_getLast?_append_right u hv

theorem IsDigits.last_word
    (h : IsDigits w) :
    w.getLast?.any Text.isAsciiWord = true := by
  obtain ⟨hne, hdigits⟩ := h
  have hlast := hdigits _ (List.getLast_mem hne)
  simp [List.getLast?_eq_some_getLast hne, Text.isAsciiWord, Char.isAlphanum, hlast]

theorem IsFraction.last_word
    (h : IsFraction w) :
    w = [] ∨ w.getLast?.any Text.isAsciiWord = true := by
  refine h.imp_right ?_
  rintro ⟨ds, rfl, hdigits⟩
  exact any_getLast?_append_right ['.'] hdigits.last_word

theorem IsExponent.last_word
    (h : IsExponent w) :
    w = [] ∨ w.getLast?.any Text.isAsciiWord = true := by
  refine h.imp_right ?_
  rintro ⟨e, sign, ds, rfl, _, _, hdigits⟩
  exact any_getLast?_append_right (e :: sign) hdigits.last_word

theorem IsTypeLetter.last_word
    {l : Language}
    (h : IsTypeLetter l w) :
    w = [] ∨ w.getLast?.any Text.isAsciiWord = true := by
  refine h.imp_right ?_
  rintro ⟨_, c, hc, rfl⟩
  have hletters : "fFdDlL".toList.all Text.isAsciiWord = true := by
    decide
  exact List.all_eq_true.1 hletters c hc

theorem IsNumeral.last_word
    {l : Language}
    (h : IsNumeral l w) :
    w.getLast?.any Text.isAsciiWord = true := by
  obtain ⟨whole, fraction, exponent, letter, rfl, hwhole, hfraction, hexponent, hletter⟩ :=
    h
  rw [← List.append_assoc, ← List.append_assoc]
  exact any_getLast?_append (any_getLast?_append (any_getLast?_append hwhole.last_word
    hfraction.last_word) hexponent.last_word) hletter.last_word

end Ends

/-! ## The pattern -/

namespace Pattern

theorem CharSet.contains_asciiDigit
    (c : Char) :
    asciiDigit.contains c = c.isDigit := by
  rw [Bool.eq_iff_iff]
  exact ⟨fun h => Table.isDigit_of_mem (Table.mem_asciiDigits h),
    CharSet.contains_of_isDigit⟩

namespace Plain

variable {p close : Plain} {before : Option Char} {w rest : List Char}

theorem behind_none_eq_getLast?
    (w : List Char) :
    behind none w = w.getLast? := by
  cases w with
  | nil =>
      rfl
  | cons c w =>
      rw [behind_of_ne_nil none (List.cons_ne_nil c w), List.getLast?_eq_some_getLast]

theorem accepts_opt :
    (opt p true).Accepts before w rest ↔ w = [] ∨ p.Accepts before w rest := by
  exact Or.comm

theorem accepts_digits :
    digits.Accepts before w rest ↔ IsDigits w := by
  simp only [digits, accepts_run, CharSet.contains_asciiDigit, IsDigits]

theorem accepts_fraction :
    (opt (seq (one (.single '.')) digits) true).Accepts before w rest ↔ IsFraction w := by
  simp only [accepts_opt, Accepts, accepts_digits, CharSet.contains_single, IsFraction]
  refine or_congr_right ?_
  constructor
  · rintro ⟨_, ds, rfl, ⟨_, rfl, rfl⟩, hdigits⟩
    exact ⟨ds, rfl, hdigits⟩
  · rintro ⟨ds, rfl, hdigits⟩
    exact ⟨['.'], ds, rfl, ⟨'.', rfl, rfl⟩, hdigits⟩

theorem accepts_sign :
    (opt (one ((CharSet.single '+').union (.single '-'))) true).Accepts before w rest
      ↔
    w ∈ [[], ['+'], ['-']] := by
  have hsigns : ∀ c,
      ((CharSet.single '+').union (.single '-')).contains c = ['+', '-'].contains c :=
    CharSet.contains_eq_of_lists (by decide)
  simp only [accepts_opt, Accepts, hsigns, List.contains_iff_mem, List.mem_cons,
    List.not_mem_nil, or_false, and_or_left, exists_or, exists_eq_right]

theorem accepts_exponent :
    (opt (seq (one ((CharSet.single 'e').union (.single 'E')))
        (seq (opt (one ((CharSet.single '+').union (.single '-'))) true) digits))
      true).Accepts before w rest
      ↔
    IsExponent w := by
  have hletters : ∀ c,
      ((CharSet.single 'e').union (.single 'E')).contains c = ['e', 'E'].contains c :=
    CharSet.contains_eq_of_lists (by decide)
  rw [accepts_opt, IsExponent]
  refine or_congr_right ?_
  constructor
  · rintro ⟨_, _, rfl, ⟨e, rfl, he⟩, sign, ds, rfl, hsign, hdigits⟩
    rw [hletters, List.contains_iff_mem] at he
    exact ⟨e, sign, ds, rfl, he, accepts_sign.1 hsign, accepts_digits.1 hdigits⟩
  · rintro ⟨e, sign, ds, rfl, he, hsign, hdigits⟩
    rw [← List.contains_iff_mem, ← hletters] at he
    exact ⟨[e], sign ++ ds, rfl, ⟨e, rfl, he⟩, sign, ds, rfl, accepts_sign.2 hsign,
      accepts_digits.2 hdigits⟩

/-- The pattern of the numbers accepts the numerals behind which no word goes on, if what
stands behind the digits closes them. -/
theorem accepts_number
    {l : Language}
    (hclose : ∀ before w rest,
      close.Accepts before w rest
        ↔
      IsTypeLetter l w ∧ (Look.word .edge false).holds (behind before w) rest.head? =
        true) :
    (number close).Accepts none w rest
      ↔
    IsNumeral l w ∧ rest.head?.any Text.isAsciiWord = false := by
  -- A numeral ends in the character of a word, so only the next character matters.
  have hedge : ∀ {w}, IsNumeral l w →
      ((Look.word .edge false).holds (behind none w) rest.head? = true
        ↔
      rest.head?.any Text.isAsciiWord = false) := by
    intro w hw
    rw [Look.holds_edge, behind_none_eq_getLast?, hw.last_word]
    simp
  constructor
  · rintro ⟨_, _, rfl, ⟨rfl, _⟩, whole, _, rfl, hwhole, fraction, _, rfl, hfraction,
      exponent, letter, rfl, hexponent, hletter⟩
    rw [hclose, ← behind_append, ← behind_append, ← behind_append,
      ← behind_append] at hletter
    have hnumeral : IsNumeral l (whole ++ (fraction ++ (exponent ++ letter))) :=
      ⟨whole, fraction, exponent, letter, rfl, accepts_digits.1 hwhole,
        accepts_fraction.1 hfraction, accepts_exponent.1 hexponent, hletter.1⟩
    refine ⟨hnumeral, (hedge hnumeral).1 ?_⟩
    simpa using hletter.2
  · rintro ⟨hnumeral, hrest⟩
    have hlast := (hedge hnumeral).2 hrest
    obtain ⟨whole, fraction, exponent, letter, rfl, hwhole, hfraction,
        hexponent, hletter⟩ :=
      hnumeral
    refine ⟨[], _, rfl, ⟨rfl, ?_⟩, whole, _, rfl, accepts_digits.2 hwhole,
      fraction, _, rfl, accepts_fraction.2 hfraction, exponent, letter, rfl,
      accepts_exponent.2 hexponent, ?_⟩
    · obtain ⟨c, ds, rfl⟩ := List.exists_cons_of_ne_nil hwhole.1
      have hc := hwhole.2 c List.mem_cons_self
      simp [Look.holds_edge, Text.isAsciiWord, Char.isAlphanum, hc]
    · rw [hclose, ← behind_append, ← behind_append, ← behind_append, ← behind_append]
      exact ⟨hletter, by simpa using hlast⟩

end Plain
end Pattern

namespace Table

open Pattern

namespace Lexicon

variable {l : Language} {x : Lexicon} {c : Char} {rest : List Char}

theorem accepts_numberEnd
    (hlexicon : lexicon? l = some x)
    (before : Option Char)
    (w rest : List Char) :
    x.numberEnd.Accepts before w rest
      ↔
    IsTypeLetter l w ∧ (Look.word .edge false).holds (behind before w) rest.head? =
      true := by
  cases l with
  | html | css =>
      cases hlexicon
  | c | python | javaScript =>
      cases hlexicon
      constructor
      · rintro ⟨rfl, hedge⟩
        exact ⟨Or.inl rfl, hedge⟩
      · rintro ⟨rfl | ⟨hjava, _⟩, hedge⟩
        · exact ⟨rfl, hedge⟩
        · cases hjava
  | java =>
      cases hlexicon
      have hletters : ∀ c,
          (CharSet.unions ("fFdDlL".toList.map CharSet.single)).contains c
            =
          "fFdDlL".toList.contains c :=
        CharSet.contains_eq_of_lists (by decide)
      have hletter : ∀ {u more},
          (Plain.opt (.one (.unions ("fFdDlL".toList.map CharSet.single))) true).Accepts
              before u more
            ↔
          IsTypeLetter .java u := by
        intro u more
        simp only [Plain.accepts_opt, Plain.Accepts, hletters, List.contains_iff_mem,
          IsTypeLetter, true_and]
        simp only [and_comm]
      constructor
      · rintro ⟨u, _, rfl, hu, rfl, hedge⟩
        rw [List.append_nil]
        exact ⟨hletter.1 hu, hedge⟩
      · rintro ⟨hw, hedge⟩
        exact ⟨w, [], (List.append_nil w).symm, hletter.2 hw, rfl, hedge⟩

theorem accepts_number_iff
    (hlexicon : lexicon? l = some x)
    {w rest : List Char} :
    (Plain.number x.numberEnd).Accepts none w rest
      ↔
    IsNumeral l w ∧ rest.head?.any Text.isAsciiWord = false :=
  Plain.accepts_number (accepts_numberEnd hlexicon)

theorem eager_number
    (hlexicon : lexicon? l = some x) :
    (Plain.number x.numberEnd).eager = true := by
  cases l <;> cases hlexicon <;> decide

/-- The pattern takes a number of which none is longer, and nothing if there is none. -/
theorem text?_number
    (hlexicon : lexicon? l = some x)
    (input : List Char) :
    match (Plain.number x.numberEnd).text? input with
    | some w => IsNumberOf l input w ∧ ∀ v, IsNumberOf l input v → v.length ≤ w.length
    | none => ∀ v, ¬ IsNumberOf l input v := by
  cases htext : (Plain.number x.numberEnd).text? input with
  | none =>
      rintro _ ⟨hv, rest, rfl, hrest⟩
      exact Plain.text?_ne_none_of_accepts rfl
        ((accepts_number_iff hlexicon).2 ⟨hv, hrest⟩) htext
  | some w =>
      obtain ⟨_, rest, rfl, hw⟩ := Plain.exists_accepts_of_text? htext
      obtain ⟨hnumeral, hrest⟩ := (accepts_number_iff hlexicon).1 hw
      refine ⟨⟨hnumeral, rest, rfl, hrest⟩, ?_⟩
      rintro v ⟨hv, more, hsplit, hmore⟩
      rw [hsplit] at htext
      exact Plain.length_le_of_eager (eager_number hlexicon) htext
        ((accepts_number_iff hlexicon).2 ⟨hv, hmore⟩)

/-- No keyword and no identifier begins with a digit. -/
theorem firstText?_words_digit
    (hlexicon : lexicon? l = some x)
    (hc : c.isDigit = true)
    (rest : List Char) :
    firstText? x.wordPatterns (c :: rest)
      =
    ((Plain.number x.numberEnd).text? (c :: rest)).map fun w => (.number, w) := by
  have hregular := lexicon_regular (mem_lexicons hlexicon)
  have hstart : ¬ x.first.contains c = true := by
    have hapart : x.first.apart .asciiDigit = true := by
      cases l <;> cases hlexicon <;> decide
    intro hfirst
    exact CharSet.not_contains_of_apart hapart hfirst (CharSet.contains_of_isDigit hc)
  have hkeyword : (Plain.wholeWord x.keywords).text? (c :: rest) = none := by
    rw [Plain.text?_eq_none_iff]
    apply Plain.chars?_eq_none_of_starts
    intro s hs hcontains
    exact hstart (CharSet.contains_of_within (hregular.keyword_starts s hs) hcontains)
  have hidentifier : (Plain.seq (.one x.first) (.many x.inner true)).text? (c :: rest) =
      none := by
    rw [Plain.text?_eq_none_iff, Plain.chars?_one_many, if_neg hstart]
  simp [wordPatterns, firstText?_cons, hkeyword, hidentifier]

/-- A digit that begins no number is a text of unknown kind. -/
theorem firstText?_others_digit
    (hlexicon : lexicon? l = some x)
    (hc : c.isDigit = true)
    (rest : List Char) :
    firstText? (x.signPatterns ++ otherPatterns) (c :: rest) = some (.unknown, [c]) := by
  have hregular := lexicon_regular (mem_lexicons hlexicon)
  have hdigit := mem_asciiDigits (CharSet.contains_of_isDigit hc)
  have hblank : ¬ CharSet.blank.contains c = true :=
    CharSet.not_contains_of_lacks (by decide) hdigit
  have hsigns : firstText? x.signPatterns (c :: rest) = none := by
    rw [firstText?_eq_map, Option.map_eq_none_iff, firstMatch?_eq_none_iff]
    intro e he
    apply Plain.chars?_eq_none_of_starts
    intro s hs
    exact CharSet.not_contains_of_lacks (hregular.digit_signs e he s hs) hdigit
  rw [firstText?_append, hsigns, Option.none_or, otherPatterns, firstText?_cons,
    firstText?_cons, Plain.text?_run, if_neg hblank, Plain.text?_one,
    if_pos (CharSet.contains_all c)]
  rfl

end Lexicon

/-- A text that begins with a digit begins with the longest number that there is, and
with a text of unknown kind if there is none. -/
theorem findMatch_longest_number
    {l : Language}
    (hl : l ∈ [.c, .python, .java, .javaScript])
    {c : Char}
    (hc : c.isDigit = true)
    (rest : List Char) :
    ((∃ v, IsNumberOf l (c :: rest) v) →
      ∃ w, (builtin l).findMatch (c :: rest) = some (.number, w) ∧
        IsNumberOf l (c :: rest) w ∧
        ∀ v, IsNumberOf l (c :: rest) v → v.length ≤ w.length) ∧
    ((¬ ∃ v, IsNumberOf l (c :: rest) v) →
      (builtin l).findMatch (c :: rest) = some (.unknown, [c])) := by
  obtain ⟨x, hlexicon⟩ := exists_lexicon hl
  have hfind :
      (builtin l).findMatch (c :: rest)
        =
      (((Plain.number x.numberEnd).text? (c :: rest)).map fun w => (.number, w)).or
        (some (.unknown, [c])) := by
    rw [findMatch_builtin, patterns_of_lexicon? hlexicon, Lexicon.patterns,
      firstText?_append, Lexicon.firstText?_words_digit hlexicon hc,
      Lexicon.firstText?_others_digit hlexicon hc]
  have htext := Lexicon.text?_number hlexicon (c :: rest)
  rw [hfind]
  split at htext
  · next w hw =>
      rw [hw]
      constructor
      · intro _
        exact ⟨w, rfl, htext⟩
      · intro hnone
        exact absurd ⟨w, htext.1⟩ hnone
  · next hnone =>
      rw [hnone]
      constructor
      · rintro ⟨v, hv⟩
        exact absurd hv (htext v)
      · intro _
        rfl

/-- Of `1.5x` the `1` is a number, and `1e+5x` begins with none. -/
theorem findMatch_longest_number_c :
    Language.c ∈ [.c, .python, .java, .javaScript] ∧
      '1'.isDigit = true ∧
      (∃ w, (builtin .c).findMatch "1.5x".toList = some (.number, w) ∧
        IsNumberOf .c "1.5x".toList w ∧
        ∀ v, IsNumberOf .c "1.5x".toList v → v.length ≤ w.length) ∧
      (builtin .c).findMatch "1e+5x".toList = some (.unknown, ['1']) := by
  have hl : Language.c ∈ [.c, .python, .java, .javaScript] := by decide
  have hone : IsNumberOf .c "1.5x".toList ['1'] := by
    refine ⟨⟨['1'], [], [], [], rfl, ⟨?_, ?_⟩, Or.inl rfl, Or.inl rfl, Or.inl rfl⟩,
      ".5x".toList, rfl, rfl⟩
    · exact List.cons_ne_nil _ _
    · exact List.forall_mem_singleton.2 rfl
  have hnone : ¬ ∃ v, IsNumberOf .c "1e+5x".toList v := by
    have htext := @Lexicon.text?_number .c cLexicon rfl "1e+5x".toList
    have hnothing : (Plain.number cLexicon.numberEnd).text? "1e+5x".toList = none := by
      decide +kernel
    rw [hnothing] at htext
    rintro ⟨v, hv⟩
    exact htext v hv
  refine ⟨hl, rfl, ?_, ?_⟩
  · exact (findMatch_longest_number hl rfl ".5x".toList).1 ⟨['1'], hone⟩
  · exact (findMatch_longest_number hl rfl "e+5x".toList).2 hnone

end Table
end TableLexer
