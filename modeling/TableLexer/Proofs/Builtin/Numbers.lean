import TableLexer.Proofs.Builtin.Keywords

/-!
# What stands next to numbers

The pattern of the numbers asks for the edge of a word on both sides, as that of the
keywords does, and on the left it asks as little: the rest of a source is scanned as if
nothing stood before it.  But no number is cut out of a longer word
(`scan_number_neighbours`).

In front of a number nothing but a lone digit could end in the character of a word, and
it would have begun no number itself.  A digit in front of a number does begin one
(`Plain.chars?_number_cons`), however the number goes on.  So in a row of digits either
the first one begins a number or none does.
-/

namespace TableLexer

namespace Pattern

theorem CharSet.contains_of_isDigit
    {c : Char}
    (h : c.isDigit = true) :
    asciiDigit.contains c = true := by
  have hlt : ∀ d : Char, d.isDigit = true → d.toNat < 128 := by
    intro d hd
    apply CharSet.lt_of_isAsciiWord
    simp [Text.isAsciiWord, Char.isAlphanum, hd]
  exact CharSet.forall_of_ascii Char.isDigit asciiDigit.contains hlt (by decide) h

namespace Plain

variable {close : Plain} {c : Char} {w rest : List Char}

/-- A number with one more digit in front is a number. -/
theorem accepts_number_cons
    (hc : CharSet.asciiDigit.contains c = true)
    (h : (number close).Accepts none w rest) :
    (number close).Accepts none (c :: w) rest := by
  obtain ⟨_, _, rfl, ⟨rfl, _⟩, ds, tail, rfl, hds, htail⟩ := h
  obtain ⟨hne, hdigits⟩ := accepts_run.1 hds
  have hword : Text.isAsciiWord c = true :=
    CharSet.isAsciiWord_of_contains (CharSet.contains_of_within (by decide) hc)
  have hedge : (Look.word .edge false).holds none (some c) = true := by
    simp [Look.holds_edge, hword]
  refine ⟨[], c :: (ds ++ tail), rfl, ⟨rfl, hedge⟩, c :: ds, tail, rfl, ?_, ?_⟩
  · refine accepts_run.2 ⟨List.cons_ne_nil c ds, ?_⟩
    exact List.forall_mem_cons.2 ⟨hc, hdigits⟩
  · -- What follows the digits only sees the last one.
    rw [behind_nil, behind_of_ne_nil none hne] at htail
    rw [behind_nil, behind_cons, behind_of_ne_nil (some c) hne]
    exact htail

theorem starts_digit_of_number
    (h : (number close).Accepts none (c :: w) rest) :
    CharSet.asciiDigit.contains c = true := by
  obtain ⟨s, hs, hc⟩ := exists_start_of_accepts h
  have hs : s = .asciiDigit := by
    simpa [number, wordEdge, digits, run, starts, nullable] using hs
  rwa [hs] at hc

/-- Where a number begins, one begins a digit earlier too. -/
theorem chars?_number_cons
    {n : Nat}
    (hc : CharSet.asciiDigit.contains c = true)
    (h : (number close).chars? rest = some n) :
    (number close).chars? (c :: rest) ≠ none := by
  obtain ⟨w, more, rfl, _, _, hw⟩ := exists_accepts_of_chars? h
  exact chars?_ne_none_of_accepts rfl (accepts_number_cons hc hw)

end Plain
end Pattern

namespace Table

open Pattern

namespace Lexicon

variable {x : Lexicon} {n : Nat} {text : List Char}

theorem number_mem_patterns
    (x : Lexicon) :
    (.number, .number x.numberEnd) ∈ x.patterns := by
  simp [patterns, wordPatterns]

/-- Where the table knows nothing, no number begins. -/
theorem chars?_number_of_unknown
    (h : firstMatch? x.patterns text = some (.unknown, n)) :
    (Plain.number x.numberEnd).chars? text = none := by
  rcases firstMatch?_append_eq_some_iff.1 h with hword | ⟨hnone, _⟩
  · obtain ⟨p, hmem, _⟩ := exists_mem_of_firstMatch? hword
    simp [wordPatterns] at hmem
  · exact firstMatch?_eq_none_iff.1 hnone (.number, .number x.numberEnd)
      (by simp [wordPatterns])

end Lexicon

namespace Segmentation

variable {l : Language} {x : Lexicon} {source : List Char}
  {before after : List Span} {w : List Char}

theorem not_word_behind_number
    (hlexicon : lexicon? l = some x)
    (h : (builtin l).Segmentation source (before ++ ⟨some .number, w⟩ :: after)) :
    (Span.joined after).head?.any Text.isAsciiWord = false := by
  have hregular := lexicon_regular (mem_lexicons hlexicon)
  have hnumber :=
    Lexicon.chars?_of_firstMatch? _ x.number_mem_patterns (h.firstMatch?_eq hlexicon)
  refine Plain.head?_not_word_of_closes ?_ hregular.number_ends hnumber
  exact hregular.number_closes

/-- A lone digit in front of a number would have begun the number. -/
theorem not_word_before_number
    (hlexicon : lexicon? l = some x)
    {s : Span}
    (h : (builtin l).Segmentation source (before ++ s :: ⟨some .number, w⟩ :: after))
    {c : Char}
    (hlast : s.text.getLast? = some c) :
    Text.isAsciiWord c = false := by
  rw [Bool.eq_false_iff]
  intro hc
  have hbehind : (builtin l).Segmentation source
      ((before ++ [s]) ++ ⟨some .number, w⟩ :: after) := by
    simpa using h
  have hnumber :=
    Lexicon.chars?_of_firstMatch? _ x.number_mem_patterns (hbehind.firstMatch?_eq hlexicon)
  obtain ⟨v, rest, htext, hlen, hne, hv⟩ := Plain.exists_accepts_of_chars? hnumber
  obtain ⟨rfl, rfl⟩ := List.append_inj htext hlen.symm
  obtain ⟨d, u, rfl⟩ := List.exists_cons_of_ne_nil hne
  have hd : Text.isAsciiWord d = true :=
    CharSet.isAsciiWord_of_contains
      (CharSet.contains_of_within (by decide) (Plain.starts_digit_of_number hv))
  have hinner : isIdentifierChar l c = true := by
    rw [isIdentifierChar, hc, Bool.true_or]
  obtain ⟨rfl, hdigit⟩ := h.lone_digit_before_word hlexicon hlast hinner rfl hd
  have hunknown := Lexicon.chars?_number_of_unknown (h.firstMatch?_eq hlexicon)
  exact Plain.chars?_number_cons (CharSet.contains_of_isDigit hdigit) hnumber hunknown

end Segmentation

/-- No character of an ASCII word touches a number. -/
theorem scan_number_neighbours
    {l : Language}
    (hl : l ∈ [.c, .python, .java, .javaScript])
    (settings : ScanSettings)
    (source : String)
    {k : Token}
    (hk : k ∈ ((builtin l).scan settings source).tokens)
    (hkind : k.kind = .number) :
    ∃ before after : String,
      source = before ++ k.value ++ after ∧
      before.utf8ByteSize = k.position ∧
      (∀ c, before.toList.getLast? = some c → Text.isAsciiWord c = false) ∧
      (∀ c, after.toList.head? = some c → Text.isAsciiWord c = false) := by
  obtain ⟨x, hlexicon⟩ := exists_lexicon hl
  obtain ⟨spans, hspans⟩ := Segmentation.exists_spans (builtin l) source.toList
  rw [scan_eq_account settings hspans] at hk
  obtain ⟨before, after, rfl, hsource, hposition⟩ := hspans.exists_split hk
  rw [hkind] at hspans
  refine ⟨_, _, hsource, hposition, ?_, ?_⟩
  · intro c hlast
    rw [String.toList_ofList] at hlast
    obtain ⟨first, s, rfl, hend⟩ := hspans.exists_last hlast
    rw [List.append_assoc, List.singleton_append] at hspans
    exact hspans.not_word_before_number hlexicon hend
  · intro c hhead
    rw [String.toList_ofList] at hhead
    have hnot := hspans.not_word_behind_number hlexicon
    rw [hhead] at hnot
    simpa using hnot

/-- No digit of `52a` is a number; the `1` stands between signs. -/
theorem scan_number_neighbours_behind_letters :
    let tokens := ((builtin .java).scan ⟨false, false⟩ "52a$1.").tokens
    Language.java ∈ [.c, .python, .java, .javaScript] ∧
      ⟨.number, "1", 1, 4⟩ ∈ tokens ∧
      ∃ before after : String,
        "52a$1." = before ++ "1" ++ after ∧
        before.utf8ByteSize = 4 ∧
        (∀ c, before.toList.getLast? = some c → Text.isAsciiWord c = false) ∧
        (∀ c, after.toList.head? = some c → Text.isAsciiWord c = false) := by
  intro tokens
  have hl : Language.java ∈ [.c, .python, .java, .javaScript] := by decide
  have hspans : (builtin .java).Segmentation "52a$1.".toList
      [⟨some .unknown, ['5']⟩, ⟨some .unknown, ['2']⟩, ⟨some .identifier, ['a']⟩,
       ⟨some .unknown, ['$']⟩, ⟨some .number, ['1']⟩, ⟨some .unknown, ['.']⟩] :=
    Segmentation.of_found rfl (by decide +kernel)
  have hk : ⟨.number, "1", 1, 4⟩ ∈ tokens := by
    simp only [tokens, scan_eq_account ⟨false, false⟩ hspans]
    decide
  exact ⟨hl, hk, scan_number_neighbours hl ⟨false, false⟩ "52a$1." hk rfl⟩

end Table
end TableLexer
