import Mathlib.Algebra.Group.Nat.Defs
import TableLexer.Text.Digits

/-!
# Numbers in decimal

What is written of a number, with or without zeros in front, is digits, and reading as many
digits gives the number back.  A number that is not whole has a fraction or an exponent
behind its digits; the forms of these parts are given first.
-/

namespace TableLexer

/-- Decimal digits, one at least. -/
def IsDigits (w : List Char) : Prop :=
  w ≠ [] ∧ ∀ c ∈ w, c.isDigit = true

/-- Nothing, or a point and digits. -/
def IsFraction (w : List Char) : Prop :=
  w = [] ∨ ∃ ds, w = '.' :: ds ∧ IsDigits ds

/-- Nothing, or an `e`, perhaps a sign, and digits. -/
def IsExponent (w : List Char) : Prop :=
  w = [] ∨ ∃ e sign ds,
    w = e :: (sign ++ ds) ∧ e ∈ ['e', 'E'] ∧ sign ∈ [[], ['+'], ['-']] ∧ IsDigits ds

namespace Text

theorem isDigit_of_mem_decimal
    {n : Nat} {c : Char}
    (hc : c ∈ decimal n) :
    c.isDigit = true :=
  Nat.isDigit_of_mem_toDigits (by omega) (by omega) hc

theorem isDigit_of_mem_paddedDecimal
    {width n : Nat} {c : Char}
    (hc : c ∈ paddedDecimal width n) :
    c.isDigit = true := by
  rcases List.mem_append.1 hc with hzero | hdigit
  · rw [(List.mem_replicate.1 hzero).2]
    decide
  · exact isDigit_of_mem_decimal hdigit

@[simp] theorem decimalValue_paddedDecimal
    (width n : Nat) :
    decimalValue (paddedDecimal width n) = n := by
  rw [decimalValue, paddedDecimal, Nat.ofDigitChars_append,
    Nat.ofDigitChars_replicate_zero, Nat.mul_zero, decimal, Nat.ofDigitChars_ten_toDigits]

/-- A number with no more digits than the width is written with as many digits as that. -/
theorem length_paddedDecimal
    {width n : Nat}
    (hwidth : 0 < width)
    (hn : n < 10 ^ width) :
    (paddedDecimal width n).length = width := by
  have hlength : (decimal n).length ≤ width :=
    (Nat.length_toDigits_le_iff (by omega) hwidth).2 hn
  simp only [paddedDecimal, List.length_append, List.length_replicate]
  omega

theorem paddedDecimal_ne_nil
    (width n : Nat) :
    paddedDecimal width n ≠ [] := by
  simp [paddedDecimal, decimal, Nat.toDigits_ne_nil]

/-- Only zero is written with a zero in front. -/
theorem decimal_eq_of_head?
    {n : Nat}
    (h : (decimal n).head? = some '0') :
    decimal n = ['0'] := by
  induction n using Nat.strongRecOn with
  | ind n ih =>
      unfold decimal at h ih ⊢
      rw [Nat.toDigits_eq_if (by omega)] at h ⊢
      split
      · rename_i hdigit
        rw [if_pos hdigit] at h
        simpa using h
      · rename_i htens
        have hnil : Nat.toDigits 10 (n / 10) ≠ [] := Nat.toDigits_ne_nil
        have hhead : (Nat.toDigits 10 (n / 10)).head? = some '0' := by
          rw [if_neg htens, List.head?_append, List.head?_eq_some_head hnil] at h
          rw [List.head?_eq_some_head hnil]
          exact h
        have hzero := ih (n / 10) (by omega) hhead
        have hvalue := congrArg (Nat.ofDigitChars 10 · 0) hzero
        simp only [Nat.ofDigitChars_ten_toDigits] at hvalue
        have hnone : Nat.ofDigitChars 10 ['0'] 0 = 0 := by decide
        omega

/-- All digits are taken, if they are no more than asked for and none follows. -/
theorem takeDigits_append
    {most : Nat} {digits rest : List Char}
    (hdigits : ∀ c ∈ digits, c.isDigit = true)
    (hlength : digits.length ≤ most)
    (hrest : digits.length = most ∨ ∀ c ∈ rest.head?, c.isDigit = false) :
    takeDigits most (digits ++ rest) = (digits, rest) := by
  induction digits generalizing most with
  | nil =>
      cases most with
      | zero =>
          rfl
      | succ most =>
          cases rest with
          | nil =>
              rfl
          | cons c rest =>
              have hc : c.isDigit = false := by simpa using hrest
              simp [takeDigits, hc]
  | cons d digits ih =>
      cases most with
      | zero =>
          simp at hlength
      | succ most =>
          have hd : d.isDigit = true := hdigits d (by simp)
          have htail :=
            ih (fun c hc => hdigits c (List.mem_cons_of_mem d hc))
              (by simpa using hlength) (by simpa using hrest)
          simp [takeDigits, hd, htail]

/-- A number is read from its digits, if they are no more than asked for and none
follows. -/
theorem readDecimal_append
    {most : Nat} {digits rest : List Char}
    (hnil : digits ≠ [])
    (hdigits : ∀ c ∈ digits, c.isDigit = true)
    (hlength : digits.length ≤ most)
    (hrest : digits.length = most ∨ ∀ c ∈ rest.head?, c.isDigit = false) :
    readDecimal most (digits ++ rest) = some (decimalValue digits, rest) := by
  rw [readDecimal, takeDigits_append hdigits hlength hrest]
  cases digits with
  | nil =>
      exact absurd rfl hnil
  | cons d digits =>
      rfl

end Text
end TableLexer
