import TableLexer.Proofs.Builtin.Patterns
import TableLexer.Proofs.Pattern.Accept
import TableLexer.Proofs.Pattern.Cut

/-!
# What the lexicons have in common

The tables of the programming languages are told apart by a few sets and words, and
what follows about them rests on a few facts: words end where no character of a word
follows, a keyword begins like an identifier, a digit begins no sign, and so on.  They
are gathered in `Lexicon.Regular` and checked once for the four languages.
-/

namespace TableLexer
namespace Table

open Pattern

/-- The lexicon of a programming language. -/
def lexicon? : Language → Option Lexicon
  | .c => some cLexicon
  | .python => some pythonLexicon
  | .java => some javaLexicon
  | .javaScript => some javaScriptLexicon
  | .html | .css => none

theorem patterns_of_lexicon?
    {l : Language} {x : Lexicon}
    (h : lexicon? l = some x) :
    patterns l = x.patterns := by
  cases l <;> cases h <;> rfl

def lexicons : List Lexicon :=
  [cLexicon, pythonLexicon, javaLexicon, javaScriptLexicon]

theorem mem_lexicons
    {l : Language} {x : Lexicon}
    (h : lexicon? l = some x) :
    x ∈ lexicons := by
  cases l <;> cases h <;> simp [lexicons]

theorem exists_lexicon
    {l : Language}
    (h : l ∈ [.c, .python, .java, .javaScript]) :
    ∃ x, lexicon? l = some x := by
  cases l with
  | html | css =>
      simp at h
  | c | python | java | javaScript =>
      exact ⟨_, rfl⟩

/-- The tables of markup and style sheets ask nothing. -/
theorem looks_of_lexicon?
    {l : Language}
    (h : lexicon? l = none) :
    ∀ e ∈ patterns l, e.2.looks = [] := by
  cases l with
  | html =>
      decide
  | css =>
      decide
  | c | python | java | javaScript =>
      cases h

def asciiDigits : List Char :=
  "0123456789".toList

def blanks : List Char :=
  Text.blankRanges.flatMap fun (first, last) =>
    (List.range (last + 1 - first)).map fun n => Char.ofNat (first + n)

theorem mem_asciiDigits
    {c : Char}
    (h : CharSet.asciiDigit.contains c = true) :
    c ∈ asciiDigits := by
  have hlt : ∀ d, CharSet.asciiDigit.contains d = true → d.toNat < 128 :=
    fun _ => CharSet.lt_of_isAscii (by decide)
  simpa using CharSet.forall_of_ascii _ asciiDigits.contains hlt (by decide) h

theorem isDigit_of_mem
    {c : Char}
    (h : c ∈ asciiDigits) :
    c.isDigit = true := by
  have hall : asciiDigits.all Char.isDigit = true := by
    decide
  exact List.all_eq_true.1 hall c h

theorem mem_blanks
    {c : Char}
    (h : CharSet.blank.contains c = true) :
    c ∈ blanks := by
  rw [CharSet.contains_blank] at h
  simp only [Text.isBlank, Text.CodeRanges.contains, List.any_eq_true, Bool.and_eq_true,
    decide_eq_true_eq] at h
  obtain ⟨r, hr, hlow, hhigh⟩ := h
  refine List.mem_flatMap.2 ⟨r, hr, List.mem_map.2 ⟨c.toNat - r.1, ?_, ?_⟩⟩
  · rw [List.mem_range]
    omega
  · rw [Nat.add_sub_cancel' hlow, Char.ofNat_toNat]

/-- What the lexicons of the programming languages have in common. -/
structure Lexicon.Regular (x : Lexicon) : Prop where
  /-- Words ask for the edges of ASCII words only. -/
  word_looks : ∀ e ∈ x.wordPatterns, ∀ l ∈ e.2.looks, l = .word .edge false
  sign_looks : ∀ e ∈ x.signPatterns, e.2.looks = []
  /-- A keyword starts like an identifier. -/
  keyword_starts : ∀ s ∈ (Plain.wholeWord x.keywords).starts, s.within x.first = true
  /-- Keywords end in the character of a word. -/
  keyword_ends : ∀ s ∈ (Plain.wholeWord x.keywords).ends, s.within .asciiWord = true
  /-- Identifiers go on as long as words do. -/
  inner_word : CharSet.asciiWord.within x.inner = true
  number_ends : ∀ s ∈ (Plain.number x.numberEnd).ends, s.within .asciiWord = true
  /-- Behind a number lies the edge of a word. -/
  number_closes : x.numberEnd.closes = true
  /-- No sign starts with a digit. -/
  digit_signs : ∀ e ∈ x.signPatterns, ∀ s ∈ e.2.starts, s.lacks asciiDigits = true
  /-- Neither a word nor a sign starts with a blank. -/
  blank_starts : ∀ e ∈ x.wordPatterns ++ x.signPatterns, ∀ s ∈ e.2.starts,
    s.lacks blanks = true
  /-- Only strings and comments hold line feeds. -/
  newline_sets : ∀ e ∈ x.wordPatterns ++ x.signPatterns,
    e.1 ≠ .string → e.1 ≠ .comment → ∀ s ∈ e.2.sets, ¬ s.contains '\n' = true
  signs_take : ∀ e ∈ x.signPatterns, e.2.nullable = false
  newline_quotes : '\n' ∉ x.quotes
  comment_form : x.comment = slashComment ∨ x.comment = hashComment

theorem lexicon_regular
    {x : Lexicon}
    (hx : x ∈ lexicons) :
    x.Regular := by
  constructor <;> revert x <;> decide +kernel

end Table
end TableLexer
