import Mathlib.Data.List.DropRight

/-!
# The latest entries of a log

A log of bounded size keeps the last entries of all there were, `rtake n` of them.  When
one more comes it is enough to look at those that are kept (`rtake_rtake_concat`), and even
the smallest log keeps the entry that came last (`getLast?_rtake`).
-/

namespace TableLexer

variable {α : Type}

theorem rtake_rtake
    (xs : List α) (m n : Nat) :
    (xs.rtake m).rtake n = xs.rtake (min n m) := by
  simp [List.rtake_eq_reverse_take_reverse, List.take_take]

/-- An entry that comes behind what was kept comes behind all there were. -/
theorem rtake_rtake_concat
    (xs : List α) (n : Nat) (x : α) :
    (xs.rtake n ++ [x]).rtake n = (xs ++ [x]).rtake n := by
  cases n with
  | zero =>
      rw [List.rtake_zero, List.rtake_zero]
  | succ n =>
      rw [List.rtake_concat_succ, List.rtake_concat_succ, rtake_rtake,
        Nat.min_eq_left (Nat.le_succ n)]

theorem length_rtake
    (xs : List α) (n : Nat) :
    (xs.rtake n).length = min n xs.length := by
  rw [List.rtake, List.length_drop]
  omega

theorem getLast?_rtake
    {n : Nat}
    (hn : 0 < n)
    (xs : List α) :
    (xs.rtake n).getLast? = xs.getLast? := by
  rw [List.rtake, List.getLast?_drop]
  split
  · have hnil : xs = [] := List.eq_nil_of_length_eq_zero (by omega)
    rw [hnil]
    rfl
  · rfl

end TableLexer
