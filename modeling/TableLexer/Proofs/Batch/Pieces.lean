import Mathlib.Data.List.Basic
import TableLexer.Batch.Run

/-!
# Cutting a batch

The files of a batch are cut twice, into chunks and each chunk into slices.  A cut
loses nothing and changes no order: the pieces, joined, are the list.  No piece is
empty, and a chunk gives no more slices than there are workers, because rounding up
makes the slices long enough.
-/

namespace TableLexer

theorem le_mul_divideUp
    (a : Nat) {b : Nat}
    (hb : 0 < b) :
    a ≤ b * divideUp a b := by
  have hdiv := Nat.div_add_mod (a + b - 1) b
  have hmod := Nat.mod_lt (a + b - 1) hb
  unfold divideUp
  omega

section Pieces

variable {α : Type} (size : Nat)

@[simp] theorem flatten_piecesOf
    (xs : List α) :
    (piecesOf size xs).flatten = xs := by
  fun_induction piecesOf size xs with
  | case1 =>
      rfl
  | case2 a rest ih =>
      rw [List.flatten_cons, ih, List.take_append_drop]

theorem ne_nil_of_mem_piecesOf
    {xs piece : List α}
    (h : piece ∈ piecesOf size xs) :
    piece ≠ [] := by
  fun_induction piecesOf size xs with
  | case1 =>
      cases h
  | case2 a rest ih =>
      rcases List.mem_cons.1 h with rfl | h
      · intro hnil
        have hlen := congrArg List.length hnil
        rw [List.length_take, List.length_cons, List.length_nil] at hlen
        omega
      · exact ih h

theorem length_le_of_mem_piecesOf
    {xs piece : List α}
    (h : piece ∈ piecesOf size xs) :
    piece.length ≤ max size 1 := by
  fun_induction piecesOf size xs with
  | case1 =>
      cases h
  | case2 a rest ih =>
      rcases List.mem_cons.1 h with rfl | h
      · rw [List.length_take]
        exact Nat.min_le_left _ _
      · exact ih h

/-- All pieces but the last are full. -/
theorem length_piecesOf_mul_lt
    (xs : List α) :
    (piecesOf size xs).length * max size 1 < xs.length + max size 1 := by
  fun_induction piecesOf size xs with
  | case1 =>
      simp only [List.length_nil]
      omega
  | case2 a rest ih =>
      rw [List.length_drop] at ih
      rw [List.length_cons, Nat.add_mul, Nat.one_mul]
      by_cases hlast : (a :: rest).length ≤ max size 1
      · have hzero : (piecesOf size ((a :: rest).drop (max size 1))).length = 0 := by
          rw [List.drop_eq_nil_of_le hlast, piecesOf]
          rfl
        rw [hzero, List.length_cons]
        omega
      · omega

theorem length_piecesOf_divideUp_le
    (xs : List α)
    {workers : Nat}
    (hworkers : 0 < workers) :
    (piecesOf (divideUp xs.length workers) xs).length ≤ workers := by
  have hfull := length_piecesOf_mul_lt (divideUp xs.length workers) xs
  have hlong := le_mul_divideUp xs.length hworkers
  by_contra hmore
  have hsize : workers * divideUp xs.length workers
      ≤ workers * max (divideUp xs.length workers) 1 :=
    Nat.mul_le_mul_left workers (Nat.le_max_left _ _)
  have hcount : (workers + 1) * max (divideUp xs.length workers) 1
      ≤ (piecesOf (divideUp xs.length workers) xs).length
          * max (divideUp xs.length workers) 1 :=
    Nat.mul_le_mul_right _ (by omega)
  rw [Nat.add_mul, Nat.one_mul] at hcount
  omega

end Pieces

theorem chunkSize_bounds
    (files workers : Nat) :
    1 ≤ chunkSize files workers ∧ chunkSize files workers ≤ maxChunk := by
  unfold chunkSize maxChunk
  omega

theorem BatchConfig.workers_bounds
    (config : BatchConfig) :
    1 ≤ config.workers ∧ config.workers ≤ maxWorkers := by
  unfold BatchConfig.workers maxWorkers
  omega

end TableLexer
