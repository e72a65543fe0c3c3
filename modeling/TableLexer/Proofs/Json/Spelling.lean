import Mathlib.Data.List.TakeDrop
import TableLexer.Json.Reader
import TableLexer.Proofs.Text.Decimals

/-!
# The spellings of JSON values

A value can be spelled in many ways: blanks may stand between its parts, and a character of
a string may be escaped or not.  `Spells` is the grammar of these spellings.  Whatever is
spelled is read as the value it spells, and nothing but what follows it is left
(`Spells.readsBack`); so a text with blanks around one spelling is read as one value
(`read?_of_spells`).

The induction goes over the spelling.  A number is the only value whose end is not told by
the value itself, so what follows a value must not go on with a number.  The bound on the
steps of the reader is twice the length of the spelling, and one more for elements and
fields, since their reader takes a step to get to the first value.
-/

namespace TableLexer
namespace Json

/-! ## Blanks -/

/-- The characters may all stand between the parts of a text. -/
def Blanks (cs : List Char) : Prop :=
  ∀ c ∈ cs, isSpace c = true

theorem skipSpace_append
    {blanks : List Char}
    (hblanks : Blanks blanks)
    (cs : List Char) :
    skipSpace (blanks ++ cs) = skipSpace cs :=
  List.dropWhile_append_of_pos hblanks

theorem skipSpace_cons
    {c : Char}
    (hc : isSpace c = false)
    (cs : List Char) :
    skipSpace (c :: cs) = c :: cs :=
  List.dropWhile_cons_of_neg (by simp [hc])

/-! ## Strings -/

/-- A spelling of one part of a string. -/
inductive SpellsPart : StringPart → List Char → Prop
  | plain
      {c : Char}
      (visible : 32 ≤ c.toNat)
      (no_quote : c ≠ '"')
      (no_slash : c ≠ '\\') :
      SpellsPart (.char c) [c]
  | letter
      {e c : Char}
      (stands_for : simpleEscape? e = some c) :
      SpellsPart (.char c) ['\\', e]
  | digits
      {a b c d : Char} {u : Nat}
      (stands_for : hexUnit? a b c d = some u) :
      SpellsPart (.unit u) ['\\', 'u', a, b, c, d]

/-- The parts of a string are spelled one after the other. -/
inductive SpellsParts : List StringPart → List Char → Prop
  | nil : SpellsParts [] []
  | cons
      {p : StringPart} {ps : List StringPart}
      {cs ds : List Char}
      (head : SpellsPart p cs)
      (tail : SpellsParts ps ds) :
      SpellsParts (p :: ps) (cs ++ ds)

/-- A string between its quotes. -/
inductive SpellsText : Option String → List Char → Prop
  | mk
      {ps : List StringPart} {cs : List Char}
      (parts : SpellsParts ps cs) :
      SpellsText ((joinParts [] ps).map String.ofList) ('"' :: (cs ++ ['"']))

theorem readParts_of_spellsPart
    {p : StringPart} {cs : List Char}
    (h : SpellsPart p cs)
    (found : List StringPart) (rest : List Char) :
    readParts found (cs ++ rest) = readParts (p :: found) rest := by
  cases h with
  | @plain c visible no_quote no_slash =>
      have hvisible : ¬ c.toNat < 32 := by omega
      rw [List.cons_append, List.nil_append, readParts]
      · simp [hvisible, no_slash]
      · exact fun h => absurd h no_quote
      · exact fun _ _ _ _ _ h => absurd h no_slash
      · exact fun _ _ h => absurd h no_slash
  | @letter e c stands_for =>
      have hletter : e ≠ 'u' := by
        rintro rfl
        cases stands_for
      rw [List.cons_append, List.cons_append, List.nil_append, readParts]
      · rw [stands_for]
      · exact fun _ _ _ _ _ h => absurd h hletter
  | @digits a b c d u stands_for =>
      simp only [List.cons_append, List.nil_append]
      rw [readParts, stands_for]

theorem readParts_of_spellsParts
    {ps : List StringPart} {cs : List Char}
    (h : SpellsParts ps cs)
    (found : List StringPart) (rest : List Char) :
    readParts found (cs ++ '"' :: rest) = some (found.reverse ++ ps, rest) := by
  induction h generalizing found with
  | nil =>
      rw [List.nil_append, readParts, List.append_nil]
  | cons head _ ih =>
      rw [List.append_assoc, readParts_of_spellsPart head, ih]
      simp

theorem readText_of_spellsText
    {text : Option String} {cs : List Char}
    (h : SpellsText text cs)
    (rest : List Char) :
    ∃ body, cs = '"' :: body ∧ readText (body ++ rest) = some (text, rest) := by
  cases h with
  | @mk ps body parts =>
      refine ⟨body ++ ['"'], rfl, ?_⟩
      rw [List.append_assoc, List.singleton_append, readText,
        readParts_of_spellsParts parts]
      rfl

/-! ## Numbers -/

/-- A zero alone, or digits that begin with none. -/
def IsWhole (cs : List Char) : Prop :=
  IsDigits cs ∧ (cs.head? = some '0' → cs = ['0'])

/-- A number as it may be written. -/
inductive SpellsNumber : List Char → Prop
  | mk
      {sign whole fraction exponent : List Char}
      (sign_ok : sign = [] ∨ sign = ['-'])
      (whole_ok : IsWhole whole)
      (fraction_ok : IsFraction fraction)
      (exponent_ok : IsExponent exponent) :
      SpellsNumber (sign ++ (whole ++ (fraction ++ exponent)))

/-- A number cannot go on with the text. -/
def EndsNumber (rest : List Char) : Prop :=
  ∀ c ∈ rest.head?, c.isDigit = false ∧ c ≠ '.' ∧ c ≠ 'e' ∧ c ≠ 'E'

theorem spanDigits_append
    {digits rest : List Char}
    (hdigits : ∀ c ∈ digits, c.isDigit = true)
    (hrest : ∀ c ∈ rest.head?, c.isDigit = false) :
    spanDigits (digits ++ rest) = (digits, rest) := by
  have hstop : rest.takeWhile Char.isDigit = [] ∧ rest.dropWhile Char.isDigit = rest := by
    cases rest with
    | nil =>
        exact ⟨rfl, rfl⟩
    | cons c rest =>
        have hc : c.isDigit = false := by simpa using hrest
        simp [hc]
  rw [spanDigits, List.span_eq_takeWhile_dropWhile, List.takeWhile_append_of_pos hdigits,
    List.dropWhile_append_of_pos hdigits, hstop.1, hstop.2, List.append_nil]

theorem readWhole_append
    {whole rest : List Char}
    (h : IsWhole whole)
    (hrest : ∀ c ∈ rest.head?, c.isDigit = false) :
    readWhole (whole ++ rest) = some (whole, rest) := by
  obtain ⟨⟨hnil, hdigits⟩, hzero⟩ := h
  rw [readWhole, spanDigits_append hdigits hrest]
  split
  · rename_i heq
    exact absurd (Prod.mk.inj heq).1 hnil
  · rename_i heq
    obtain ⟨rfl, rfl⟩ := Prod.mk.inj heq
    cases hzero rfl
  · rename_i heq
    obtain ⟨rfl, rfl⟩ := Prod.mk.inj heq
    rfl

theorem readFraction_append
    {fraction rest : List Char}
    (h : IsFraction fraction)
    (hrest : ∀ c ∈ rest.head?, c.isDigit = false ∧ c ≠ '.') :
    readFraction (fraction ++ rest) = some (fraction, rest) := by
  rcases h with rfl | ⟨digits, rfl, hnil, hdigits⟩
  · rw [List.nil_append]
    cases rest with
    | nil =>
        rfl
    | cons c rest =>
        rw [readFraction]
        intro _ heq
        simp [(List.cons.inj heq).1] at hrest
  · rw [List.cons_append, readFraction,
      spanDigits_append hdigits fun c hc => (hrest c hc).1]
    split
    · rename_i heq
      exact absurd (Prod.mk.inj heq).1 hnil
    · rename_i heq
      obtain ⟨rfl, rfl⟩ := Prod.mk.inj heq
      rfl

theorem readExponent_append
    {exponent rest : List Char}
    (h : IsExponent exponent)
    (hrest : EndsNumber rest) :
    readExponent (exponent ++ rest) = some (exponent, rest) := by
  rcases h with rfl | ⟨e, sign, digits, rfl, he, hsign, hnil, hdigits⟩
  · rw [List.nil_append]
    cases rest with
    | nil =>
        rfl
    | cons c rest =>
        have hc : c ≠ 'e' ∧ c ≠ 'E' := (hrest c rfl).2.2
        simp [readExponent, hc.1, hc.2]
  · have hspan : spanDigits (digits ++ rest) = (digits, rest) :=
      spanDigits_append hdigits fun c hc => (hrest c hc).1
    have hletter : (e == 'e' || e == 'E') = true := by simpa using he
    cases digits with
    | nil =>
        exact absurd rfl hnil
    | cons d digits =>
        have hd : d.isDigit = true := hdigits d (by simp)
        simp only [List.mem_cons, List.not_mem_nil, or_false] at hsign
        rcases hsign with rfl | rfl | rfl
        · have hplus : d ≠ '+' := by
            rintro rfl
            cases hd
          have hminus : d ≠ '-' := by
            rintro rfl
            cases hd
          simp only [List.cons_append, List.nil_append] at hspan ⊢
          simp [readExponent, hletter, hspan, hplus, hminus]
        · simp only [List.cons_append, List.nil_append] at hspan ⊢
          simp [readExponent, hletter, hspan]
        · simp only [List.cons_append, List.nil_append] at hspan ⊢
          simp [readExponent, hletter, hspan]

theorem readNumber_append
    {cs rest : List Char}
    (h : SpellsNumber cs)
    (hrest : EndsNumber rest) :
    readNumber (cs ++ rest) = some (String.ofList cs, rest) := by
  cases h with
  | @mk sign whole fraction exponent sign_ok whole_ok fraction_ok exponent_ok =>
      have hfraction : ∀ c ∈ (exponent ++ rest).head?, c.isDigit = false ∧ c ≠ '.' := by
        rcases exponent_ok with rfl | ⟨e, esign, digits, rfl, he, -, -⟩
        · exact fun c hc => ⟨(hrest c hc).1, (hrest c hc).2.1⟩
        · simp only [List.mem_cons, List.not_mem_nil, or_false] at he
          rcases he with rfl | rfl
          · simp
          · simp
      have hwhole : ∀ c ∈ (fraction ++ (exponent ++ rest)).head?, c.isDigit = false := by
        rcases fraction_ok with rfl | ⟨digits, rfl, -⟩
        · exact fun c hc => (hfraction c hc).1
        · simp
      rcases sign_ok with rfl | rfl
      · obtain ⟨⟨hnil, hdigits⟩, -⟩ := id whole_ok
        cases whole with
        | nil =>
            exact absurd rfl hnil
        | cons d whole =>
            have hminus : d ≠ '-' := by
              rintro rfl
              cases hdigits '-' (by simp)
            have hread := readWhole_append whole_ok hwhole
            simp only [List.cons_append] at hread
            simp [readNumber, hminus, hread, readFraction_append fraction_ok hfraction,
              readExponent_append exponent_ok hrest, String.append_assoc]
      · simp [readNumber, readWhole_append whole_ok hwhole,
          readFraction_append fraction_ok hfraction, readExponent_append exponent_ok hrest]

/-! ## Values -/

/-- What a piece of text can spell: a value, or the inside of an array or an object. -/
inductive Piece where
  | value (v : Json)
  | elements (vs : List Json)
  | fields (fs : List (Option String × Json))

/-- The spellings of a value, of the elements of an array and of the fields of an
object. -/
inductive Spells : Piece → List Char → Prop
  | nullWord :
      Spells (.value .null) "null".toList
  | trueWord :
      Spells (.value (.bool true)) "true".toList
  | falseWord :
      Spells (.value (.bool false)) "false".toList
  | number
      {cs : List Char}
      (written : SpellsNumber cs) :
      Spells (.value (.number (String.ofList cs))) cs
  | string
      {text : Option String} {cs : List Char}
      (written : SpellsText text cs) :
      Spells (.value (.string text)) cs
  | emptyArray
      {blanks : List Char}
      (inner : Blanks blanks) :
      Spells (.value (.array [])) ('[' :: (blanks ++ [']']))
  | array
      {vs : List Json} {before cs behind : List Char}
      (left : Blanks before)
      (elements : Spells (.elements vs) cs)
      (right : Blanks behind) :
      Spells (.value (.array vs)) ('[' :: (before ++ (cs ++ (behind ++ [']']))))
  | emptyObject
      {blanks : List Char}
      (inner : Blanks blanks) :
      Spells (.value (.object [])) ('\x7b' :: (blanks ++ ['\x7d']))
  | object
      {fs : List (Option String × Json)} {before cs behind : List Char}
      (left : Blanks before)
      (fields : Spells (.fields fs) cs)
      (right : Blanks behind) :
      Spells (.value (.object fs)) ('\x7b' :: (before ++ (cs ++ (behind ++ ['\x7d']))))
  | lastElement
      {v : Json} {cs : List Char}
      (value : Spells (.value v) cs) :
      Spells (.elements [v]) cs
  | element
      {v : Json} {vs : List Json} {cs before behind ds : List Char}
      (value : Spells (.value v) cs)
      (left : Blanks before)
      (right : Blanks behind)
      (others : Spells (.elements vs) ds) :
      Spells (.elements (v :: vs)) (cs ++ (before ++ ',' :: (behind ++ ds)))
  | lastField
      {key : Option String} {v : Json} {ks before behind cs : List Char}
      (name : SpellsText key ks)
      (left : Blanks before)
      (right : Blanks behind)
      (value : Spells (.value v) cs) :
      Spells (.fields [(key, v)]) (ks ++ (before ++ ':' :: (behind ++ cs)))
  | field
      {key : Option String} {v : Json} {fs : List (Option String × Json)}
      {ks before behind cs left right ds : List Char}
      (name : SpellsText key ks)
      (name_left : Blanks before)
      (name_right : Blanks behind)
      (value : Spells (.value v) cs)
      (value_left : Blanks left)
      (value_right : Blanks right)
      (others : Spells (.fields fs) ds) :
      Spells (.fields ((key, v) :: fs))
        (ks ++ (before ++ ':' :: (behind ++ (cs ++ (left ++ ',' :: (right ++ ds))))))

/-- Where a value or a field begins there is neither a blank nor a closing bracket. -/
def Opens (cs : List Char) : Prop :=
  ∃ c rest, cs = c :: rest ∧ isSpace c = false ∧ c ≠ ']' ∧ c ≠ '\x7d'

theorem Opens.append
    {cs : List Char}
    (h : Opens cs)
    (ds : List Char) :
    Opens (cs ++ ds) := by
  obtain ⟨c, rest, rfl, hc⟩ := h
  exact ⟨c, rest ++ ds, rfl, hc⟩

theorem Opens.skipSpace
    {cs : List Char}
    (h : Opens cs) :
    skipSpace cs = cs := by
  obtain ⟨c, rest, rfl, hspace, -⟩ := h
  exact skipSpace_cons hspace rest

theorem SpellsText.opens
    {text : Option String} {cs : List Char}
    (h : SpellsText text cs) :
    Opens cs := by
  cases h
  exact ⟨'"', _, rfl, by decide, by decide, by decide⟩

theorem SpellsNumber.exists_head
    {cs : List Char}
    (h : SpellsNumber cs) :
    ∃ c rest, cs = c :: rest ∧ (c = '-' ∨ c.isDigit = true) := by
  cases h with
  | @mk sign whole fraction exponent sign_ok whole_ok =>
      rcases sign_ok with rfl | rfl
      · obtain ⟨⟨hnil, hdigits⟩, -⟩ := whole_ok
        cases whole with
        | nil =>
            exact absurd rfl hnil
        | cons d whole =>
            exact ⟨d, _, rfl, Or.inr (hdigits d (by simp))⟩
      · exact ⟨'-', _, rfl, Or.inl rfl⟩

theorem ne_of_number_head
    {c d : Char}
    (hc : c = '-' ∨ c.isDigit = true)
    (hminus : d ≠ '-')
    (hdigit : d.isDigit = false) :
    c ≠ d := by
  rintro rfl
  rcases hc with rfl | hc
  · exact hminus rfl
  · cases hdigit.symm.trans hc

theorem Spells.opens
    {p : Piece} {cs : List Char}
    (h : Spells p cs) :
    Opens cs := by
  induction h with
  | nullWord =>
      exact ⟨'n', _, rfl, by decide, by decide, by decide⟩
  | trueWord =>
      exact ⟨'t', _, rfl, by decide, by decide, by decide⟩
  | falseWord =>
      exact ⟨'f', _, rfl, by decide, by decide, by decide⟩
  | number written =>
      obtain ⟨c, rest, rfl, hc⟩ := written.exists_head
      have hspace : isSpace c = false := by
        simp only [isSpace, Bool.or_eq_false_iff, beq_eq_false_iff_ne]
        refine ⟨⟨⟨?_, ?_⟩, ?_⟩, ?_⟩
        all_goals exact ne_of_number_head hc (by decide) (by decide)
      exact ⟨c, rest, rfl, hspace, ne_of_number_head hc (by decide) (by decide),
        ne_of_number_head hc (by decide) (by decide)⟩
  | string written =>
      exact written.opens
  | emptyArray =>
      exact ⟨'[', _, rfl, by decide, by decide, by decide⟩
  | array =>
      exact ⟨'[', _, rfl, by decide, by decide, by decide⟩
  | emptyObject =>
      exact ⟨'\x7b', _, rfl, by decide, by decide, by decide⟩
  | object =>
      exact ⟨'\x7b', _, rfl, by decide, by decide, by decide⟩
  | lastElement _ ih =>
      exact ih
  | element _ _ _ _ ih =>
      exact ih.append _
  | lastField name =>
      exact name.opens.append _
  | field name =>
      exact name.opens.append _

/-- The reader of a piece reads what is spelled, and stops behind it. -/
def ReadsBack : Piece → List Char → Prop
  | .value v, cs =>
    ∀ n rest,
      2 * cs.length ≤ n → EndsNumber rest →
        readValue n (cs ++ rest) = some (v, rest)
  | .elements vs, cs =>
    ∀ n found blanks rest,
      2 * cs.length + 1 ≤ n → Blanks blanks →
        readElements n found (cs ++ (blanks ++ ']' :: rest)) =
          some (found.reverse ++ vs, rest)
  | .fields fs, cs =>
    ∀ n found blanks rest,
      2 * cs.length + 1 ≤ n → Blanks blanks →
        readFields n found (cs ++ (blanks ++ '\x7d' :: rest)) =
          some (found.reverse ++ fs, rest)

theorem endsNumber_of_isSpace
    {c : Char}
    (hc : isSpace c = true)
    (rest : List Char) :
    EndsNumber (c :: rest) := by
  intro d hd
  obtain rfl : c = d := by simpa using hd
  simp only [isSpace, Bool.or_eq_true, beq_iff_eq] at hc
  rcases hc with ((rfl | rfl) | rfl) | rfl <;> decide

/-- A number ends in front of blanks and in front of a mark behind them. -/
theorem endsNumber_append
    {blanks rest : List Char}
    (hblanks : Blanks blanks)
    (hrest : EndsNumber rest) :
    EndsNumber (blanks ++ rest) := by
  cases blanks with
  | nil =>
      exact hrest
  | cons b blanks =>
      exact endsNumber_of_isSpace (hblanks b (by simp)) _

theorem endsNumber_of_mark
    {c : Char}
    (hc : c = ',' ∨ c = ']' ∨ c = '\x7d')
    (rest : List Char) :
    EndsNumber (c :: rest) := by
  intro d hd
  obtain rfl : c = d := by simpa using hd
  rcases hc with rfl | rfl | rfl <;> decide

/-- A reader that has a character to read has a step to take. -/
theorem exists_steps
    {c : Char} {cs : List Char} {n : Nat}
    (hn : 2 * (c :: cs).length ≤ n) :
    ∃ k, n = k + 1 ∧ 2 * cs.length + 1 ≤ k := by
  rw [List.length_cons] at hn
  exact ⟨n - 1, by omega, by omega⟩

/-- A value that begins with a sign or a digit is a number. -/
theorem readValue_number
    {c : Char}
    (hc : c = '-' ∨ c.isDigit = true)
    (n : Nat) (cs : List Char) :
    readValue (n + 1) (c :: cs)
      =
    (readNumber (c :: cs)).map fun (literal, rest) => (.number literal, rest) := by
  rw [readValue]
  · exact List.cons_ne_nil c cs
  all_goals exact fun _ h =>
    ne_of_number_head hc (by decide) (by decide) (List.cons.inj h).1

/-- An array in which something opens has elements. -/
theorem readValue_array
    {blanks cs : List Char}
    (hblanks : Blanks blanks)
    (hopens : Opens cs)
    (n : Nat) :
    readValue (n + 1) ('[' :: (blanks ++ cs))
      =
    (readElements n [] cs).map fun (vs, rest) => (.array vs, rest) := by
  rw [readValue, skipSpace_append hblanks, hopens.skipSpace]
  obtain ⟨c, rest, rfl, -, hclosing, -⟩ := hopens
  split
  · rename_i heq
    exact absurd (List.cons.inj heq).1 hclosing
  · rfl

/-- An object in which something opens has fields. -/
theorem readValue_object
    {blanks cs : List Char}
    (hblanks : Blanks blanks)
    (hopens : Opens cs)
    (n : Nat) :
    readValue (n + 1) ('\x7b' :: (blanks ++ cs))
      =
    (readFields n [] cs).map fun (fs, rest) => (.object fs, rest) := by
  rw [readValue, skipSpace_append hblanks, hopens.skipSpace]
  obtain ⟨c, rest, rfl, -, -, hclosing⟩ := hopens
  split
  · rename_i heq
    exact absurd (List.cons.inj heq).1 hclosing
  · rfl

theorem Spells.readsBack
    {p : Piece} {cs : List Char}
    (h : Spells p cs) :
    ReadsBack p cs := by
  have hcomma : isSpace ',' = false := by decide
  have hcolon : isSpace ':' = false := by decide
  have hbracket : isSpace ']' = false := by decide
  have hbrace : isSpace '\x7d' = false := by decide
  induction h with
  | nullWord =>
      intro n rest hn _
      obtain ⟨n, rfl, -⟩ := @exists_steps 'n' ['u', 'l', 'l'] n hn
      simp [readValue, dropWord?]
  | trueWord =>
      intro n rest hn _
      obtain ⟨n, rfl, -⟩ := @exists_steps 't' ['r', 'u', 'e'] n hn
      simp [readValue, dropWord?]
  | falseWord =>
      intro n rest hn _
      obtain ⟨n, rfl, -⟩ := @exists_steps 'f' ['a', 'l', 's', 'e'] n hn
      simp [readValue, dropWord?]
  | number written =>
      intro n rest hn hrest
      have hread := readNumber_append written hrest
      obtain ⟨c, ds, rfl, hc⟩ := written.exists_head
      obtain ⟨n, rfl, -⟩ := exists_steps hn
      rw [List.cons_append] at hread ⊢
      rw [readValue_number hc, hread]
      rfl
  | string written =>
      intro n rest hn _
      obtain ⟨body, rfl, hread⟩ := readText_of_spellsText written rest
      obtain ⟨n, rfl, -⟩ := exists_steps hn
      rw [List.cons_append, readValue, hread]
      rfl
  | emptyArray inner =>
      intro n rest hn _
      obtain ⟨n, rfl, -⟩ := exists_steps hn
      rw [List.cons_append, List.append_assoc, readValue, skipSpace_append inner,
        List.singleton_append, skipSpace_cons hbracket]
      rfl
  | @array vs before cs behind left elements right ih =>
      intro n rest hn _
      obtain ⟨n, rfl, hsteps⟩ := exists_steps hn
      simp only [List.length_append] at hsteps
      simp only [List.cons_append, List.append_assoc, List.nil_append]
      rw [readValue_array left (elements.opens.append _),
        ih n [] behind rest (by omega) right]
      rfl
  | emptyObject inner =>
      intro n rest hn _
      obtain ⟨n, rfl, -⟩ := exists_steps hn
      rw [List.cons_append, List.append_assoc, readValue, skipSpace_append inner,
        List.singleton_append, skipSpace_cons hbrace]
      rfl
  | @object fs before cs behind left fields right ih =>
      intro n rest hn _
      obtain ⟨n, rfl, hsteps⟩ := exists_steps hn
      simp only [List.length_append] at hsteps
      simp only [List.cons_append, List.append_assoc, List.nil_append]
      rw [readValue_object left (fields.opens.append _),
        ih n [] behind rest (by omega) right]
      rfl
  | @lastElement v cs value ih =>
      intro n found blanks rest hn hblanks
      obtain ⟨n, rfl⟩ := Nat.exists_eq_add_of_le' (Nat.le_of_add_left_le hn)
      rw [readElements,
        ih n _ (by omega) (endsNumber_append hblanks (endsNumber_of_mark (by simp) rest))]
      simp [skipSpace_append hblanks, skipSpace_cons hbracket]
  | @element v vs cs before behind ds value left right others ihv ih =>
      intro n found blanks rest hn hblanks
      obtain ⟨n, rfl⟩ := Nat.exists_eq_add_of_le' (Nat.le_of_add_left_le hn)
      simp only [List.length_cons, List.length_append] at hn
      simp only [List.cons_append, List.append_assoc]
      rw [readElements,
        ihv n _ (by omega) (endsNumber_append left (endsNumber_of_mark (by simp) _))]
      simp only [skipSpace_append left, skipSpace_cons hcomma, skipSpace_append right,
        (others.opens.append _).skipSpace]
      rw [ih n (v :: found) blanks rest (by omega) hblanks]
      simp
  | @lastField key v ks before behind cs name left right value ih =>
      intro n found blanks rest hn hblanks
      obtain ⟨n, rfl⟩ := Nat.exists_eq_add_of_le' (Nat.le_of_add_left_le hn)
      simp only [List.length_cons, List.length_append] at hn
      simp only [List.cons_append, List.append_assoc]
      obtain ⟨body, rfl, hread⟩ := readText_of_spellsText name
        (before ++ ':' :: (behind ++ (cs ++ (blanks ++ '\x7d' :: rest))))
      rw [List.cons_append, readFields, hread]
      simp only [skipSpace_append left, skipSpace_cons hcolon, skipSpace_append right,
        (value.opens.append _).skipSpace]
      rw [ih n _ (by omega)
        (endsNumber_append hblanks (endsNumber_of_mark (by simp) rest))]
      simp [skipSpace_append hblanks, skipSpace_cons hbrace]
  | @field key v fs ks before behind cs left right ds name name_left name_right
    value value_left value_right others ihv ih =>
      intro n found blanks rest hn hblanks
      obtain ⟨n, rfl⟩ := Nat.exists_eq_add_of_le' (Nat.le_of_add_left_le hn)
      simp only [List.length_cons, List.length_append] at hn
      simp only [List.cons_append, List.append_assoc]
      obtain ⟨body, rfl, hread⟩ := readText_of_spellsText name
        (before ++ ':' :: (behind ++ (cs ++ (left ++ ',' ::
          (right ++ (ds ++ (blanks ++ '\x7d' :: rest)))))))
      rw [List.cons_append, readFields, hread]
      simp only [skipSpace_append name_left, skipSpace_cons hcolon,
        skipSpace_append name_right, (value.opens.append _).skipSpace]
      rw [ihv n _ (by omega)
        (endsNumber_append value_left (endsNumber_of_mark (by simp) _))]
      simp only [skipSpace_append value_left, skipSpace_cons hcomma,
        skipSpace_append value_right, (others.opens.append _).skipSpace]
      rw [ih n ((key, v) :: found) blanks rest (by omega) hblanks]
      simp

/-- A text that spells a value, with blanks around it, is read as that value. -/
theorem read?_of_spells
    {v : Json} {before cs behind : List Char}
    (hbefore : Blanks before)
    (h : Spells (.value v) cs)
    (hbehind : Blanks behind) :
    read? (String.ofList (before ++ (cs ++ behind))) = some v := by
  have hends : EndsNumber behind := by
    have hnil : EndsNumber [] := fun c hc => by cases hc
    simpa using endsNumber_append hbehind hnil
  have hblank : skipSpace behind = [] := by
    have hskip := skipSpace_append hbehind []
    rwa [List.append_nil] at hskip
  have hlength :
      (String.ofList (before ++ (cs ++ behind))).length
        =
      before.length + (cs.length + behind.length) := by
    simp
  rw [read?, String.toList_ofList, skipSpace_append hbefore,
    (h.opens.append behind).skipSpace, hlength, h.readsBack _ behind (by omega) hends]
  simp [hblank]

end Json
end TableLexer
