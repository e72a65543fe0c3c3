import Mathlib.Tactic.Linarith
import Mathlib.Tactic.Ring
import TableLexer.Numeric.Rounding

/-!
# What rounding keeps

A quotient is rounded to the nearest whole number, and from the middle to the even
neighbour.  All of that is said by when the rounded quotient is above a number
(`Quotient.lt_round_iff`); the bounds and the independence of the form in which the
quotient is written follow from it.

A whole number below 2 ^ 53 is a double as it is, and a larger one stays at least 2 ^ 52
(`Quotient.exists_toDouble_ofNat`).
-/

namespace TableLexer
namespace Quotient

/-! ## The nearest whole number -/

/-- The rounded quotient is above a number if the quotient is above the middle between the
number and the next one, or is that middle and the number is odd. -/
theorem lt_round_iff
    (num : Nat)
    {den : Nat}
    (hden : 0 < den)
    (k : Nat) :
    k < (⟨num, den⟩ : Quotient).round
      ↔
    (2 * k + 1) * den < 2 * num ∨ (2 * k + 1) * den = 2 * num ∧ k % 2 = 1 := by
  have hsplit : den * (num / den) + num % den = num := Nat.div_add_mod num den
  have hrest : num % den < den := Nat.mod_lt num hden
  simp only [round]
  generalize num / den = below at hsplit ⊢
  generalize num % den = rest at hsplit hrest ⊢
  subst hsplit
  rcases Nat.lt_trichotomy k below with hlt | rfl | hgt
  · -- The quotient is a whole step above the number.
    obtain ⟨d, rfl⟩ := Nat.exists_eq_add_of_lt hlt
    have hmore : (2 * k + 1) * den < 2 * (den * (k + d + 1) + rest) := by
      nlinarith [Nat.zero_le (den * d)]
    split_ifs <;> omega
  · have hmiddle : (2 * k + 1) * den = 2 * (den * k) + den := by ring
    rw [hmiddle]
    split_ifs <;> omega
  · obtain ⟨d, rfl⟩ := Nat.exists_eq_add_of_lt hgt
    have hless : 2 * (den * below + rest) < (2 * (below + d + 1) + 1) * den := by
      nlinarith [Nat.zero_le (den * d)]
    split_ifs <;> omega

theorem round_bounds
    (num : Nat)
    {den : Nat}
    (hden : 0 < den) :
    2 * (⟨num, den⟩ : Quotient).round * den ≤ 2 * num + den ∧
      2 * num ≤ (2 * (⟨num, den⟩ : Quotient).round + 1) * den := by
  constructor
  · cases hround : (⟨num, den⟩ : Quotient).round with
    | zero =>
        omega
    | succ k =>
        have hk := (lt_round_iff num hden k).1 (by omega)
        have hsum : 2 * (k + 1) * den = (2 * k + 1) * den + den := by ring
        omega
  · have hself := (lt_round_iff num hden _).not.1 (Nat.lt_irrefl _)
    omega

/-- It does not matter in which form the quotient is written. -/
theorem round_mul_right
    {num den c : Nat}
    (hden : 0 < den)
    (hc : 0 < c) :
    (⟨num * c, den * c⟩ : Quotient).round = (⟨num, den⟩ : Quotient).round := by
  apply eq_of_forall_lt_iff
  intro k
  rw [lt_round_iff _ (Nat.mul_pos hden hc), lt_round_iff _ hden, ← Nat.mul_assoc,
    ← Nat.mul_assoc, Nat.mul_lt_mul_right hc, Nat.mul_left_inj (Nat.ne_of_gt hc)]

theorem round_ofNat
    (n : Nat) :
    (ofNat n).round = n := by
  simp [round, ofNat, Nat.mod_one]

/-! ## Doubles -/

theorem scale_natCast
    (q : Quotient)
    (d : Nat) :
    q.scale d = ⟨q.num * 2 ^ d, q.den⟩ := by
  simp [scale]

theorem scale_neg
    (q : Quotient)
    (d : Nat) :
    q.scale (-d) = ⟨q.num, q.den * 2 ^ d⟩ := by
  cases d with
  | zero =>
      simp [scale]
  | succ d =>
      have hneg : ¬ 0 ≤ -((d + 1 : Nat) : Int) := by omega
      rw [scale, if_neg hneg, Int.neg_neg, Int.toNat_natCast]
      rfl

theorem magnitude_ofNat
    {n : Nat}
    (hn : n ≠ 0) :
    (ofNat n).magnitude = n.log2 := by
  have hone : Nat.log2 1 = 0 := by decide
  have hlog : 2 ^ n.log2 ≤ n := Nat.log2_self_le hn
  simp only [magnitude, ofNat, hone, Nat.cast_zero, Int.sub_zero, scale_neg, Nat.one_mul]
  rw [if_neg (Nat.not_lt.2 hlog)]

/-- A whole number that is not zero is a double as it is, or is rounded to one from 2 ^ 52
on. -/
theorem exists_toDouble_ofNat
    {n : Nat}
    (hn : n ≠ 0) :
    (∃ c, 0 < c ∧ (ofNat n).toDouble = ⟨n * c, c⟩) ∨
      (2 ^ 52 ≤ n ∧ ∃ m, 2 ^ 52 ≤ m ∧ (ofNat n).toDouble = ⟨m, 1⟩) := by
  have hnum : (ofNat n).num ≠ 0 := hn
  rw [toDouble, if_neg hnum, magnitude_ofNat hn]
  rcases Nat.le_total n.log2 52 with hsmall | hlarge
  · obtain ⟨d, hd⟩ := Nat.exists_eq_add_of_le hsmall
    have hexponent : (n.log2 : Int) - 52 = -(d : Int) := by omega
    refine Or.inl ⟨2 ^ d, Nat.pow_pos (by decide), ?_⟩
    simp only [hexponent, Int.neg_neg, scale_natCast, scale_neg]
    rw [show (⟨(ofNat n).num * 2 ^ d, (ofNat n).den⟩ : Quotient) =
      ofNat (n * 2 ^ d) from rfl, round_ofNat]
    simp [ofNat]
  · obtain ⟨d, hd⟩ := Nat.exists_eq_add_of_le hlarge
    have hexponent : (n.log2 : Int) - 52 = (d : Int) := by omega
    have hpow : 0 < 2 ^ d := Nat.pow_pos (by decide)
    have hlog : 2 ^ 52 * 2 ^ d ≤ n := by
      rw [← Nat.pow_add, ← hd]
      exact Nat.log2_self_le hn
    have hround : 2 ^ 52 ≤ (⟨n, 2 ^ d⟩ : Quotient).round := by
      have hbelow := (round_bounds n hpow).2
      by_contra hless
      nlinarith
    refine Or.inr ⟨by nlinarith, (⟨n, 2 ^ d⟩ : Quotient).round * 2 ^ d, by nlinarith, ?_⟩
    simp only [hexponent, scale_natCast, scale_neg]
    simp [ofNat]

end Quotient
end TableLexer
