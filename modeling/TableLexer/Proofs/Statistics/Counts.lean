import Mathlib.Data.List.Induction
import Mathlib.Data.List.Nodup
import TableLexer.Statistics

/-!
# What the counts of kinds are

The counts of a sequence of kinds have one entry for each kind that occurs, with the number
of its occurrences, in the order in which the kinds are first met (`entries_ofKinds`).  The
induction goes over the sequence from its end: one more kind either is there already, and
its one entry counts up, or it gets an entry at the end.

The dominant entry counts more than every entry before it and no less than any behind it
(`dominant_cases`), whatever the entries are.
-/

namespace TableLexer

theorem eraseDups_concat
    (kinds : List Kind) (kind : Kind) :
    (kinds ++ [kind]).eraseDups
      =
    if kind ∈ kinds then kinds.eraseDups else kinds.eraseDups ++ [kind] := by
  rw [List.eraseDups_append]
  split
  · rename_i hmem
    simp [List.removeAll, hmem]
  · rename_i hmem
    simp [List.removeAll, hmem, List.eraseDups_cons]

theorem nodup_eraseDups
    (kinds : List Kind) :
    kinds.eraseDups.Nodup := by
  induction kinds using List.reverseRecOn with
  | nil =>
      simp
  | append_singleton kinds kind ih =>
      rw [eraseDups_concat]
      split
      · exact ih
      · rename_i hmem
        rw [← List.concat_eq_append]
        exact ih.concat (by simpa using hmem)

namespace KindCounts

/-- A kind with an entry counts up there, and nowhere else since it has only one. -/
theorem bump_of_mem
    {kind : Kind} {kinds : List Kind}
    (hnodup : kinds.Nodup)
    (hmem : kind ∈ kinds)
    (count : Kind → Nat) :
    bump kind (kinds.map fun k => (k, count k))
      =
    kinds.map fun k => (k, if k = kind then count k + 1 else count k) := by
  induction kinds with
  | nil =>
      cases hmem
  | cons k kinds ih =>
      obtain ⟨hk, hnodup⟩ := List.nodup_cons.1 hnodup
      by_cases heq : k = kind
      · subst heq
        have hothers : ∀ j ∈ kinds, j ≠ k := fun j hj h => hk (h ▸ hj)
        simpa [bump] using hothers
      · have htail : kind ∈ kinds := (List.mem_cons.1 hmem).resolve_left (Ne.symm heq)
        simp [bump, heq, ih hnodup htail]

/-- A kind without an entry gets one at the end. -/
theorem bump_of_not_mem
    {kind : Kind} {kinds : List Kind}
    (hmem : kind ∉ kinds)
    (count : Kind → Nat) :
    bump kind (kinds.map fun k => (k, count k))
      =
    (kinds.map fun k => (k, count k)) ++ [(kind, 1)] := by
  induction kinds with
  | nil =>
      rfl
  | cons k kinds ih =>
      obtain ⟨hk, htail⟩ := not_or.1 (List.mem_cons.not.1 hmem)
      simp [bump, Ne.symm hk, ih htail]

theorem ofKinds_concat
    (kinds : List Kind) (kind : Kind) :
    ofKinds (kinds ++ [kind]) = (ofKinds kinds).increment kind := by
  simp [ofKinds]

/-- Every kind that occurs has one entry, with the number of its occurrences. -/
theorem entries_ofKinds
    (kinds : List Kind) :
    (ofKinds kinds).entries = kinds.eraseDups.map fun k => (k, kinds.count k) := by
  induction kinds using List.reverseRecOn with
  | nil =>
      rfl
  | append_singleton kinds kind ih =>
      rw [ofKinds_concat, increment, ih, eraseDups_concat]
      by_cases hmem : kind ∈ kinds
      · rw [if_pos hmem, bump_of_mem (nodup_eraseDups kinds) (by simpa using hmem)]
        refine List.map_congr_left ?_
        intro k _
        by_cases heq : k = kind
        · simp [heq, List.count_append]
        · simp [heq, List.count_append, Ne.symm heq]
      · rw [if_neg hmem, bump_of_not_mem (by simpa using hmem), List.map_append]
        have hold :
            (kinds.eraseDups.map fun k => (k, kinds.count k))
              =
            kinds.eraseDups.map fun k => (k, (kinds ++ [kind]).count k) := by
          refine List.map_congr_left ?_
          intro k hk
          have hne : kind ≠ k := by
            rintro rfl
            exact hmem (List.mem_eraseDups.1 hk)
          simp [List.count_append, hne]
        have hnew : (kinds ++ [kind]).count kind = 1 := by
          simp [List.count_append, List.count_eq_zero.2 hmem]
        rw [hold, List.map_singleton, hnew]

/-! ## The dominant entry -/

/-- There is no dominant entry among none; otherwise it is the first of the largest
ones. -/
theorem dominant_cases
    (c : KindCounts) :
    (c.dominant = none ∧ c.entries = []) ∨
    ∃ before e behind,
      c.dominant = some e ∧
      c.entries = before ++ e :: behind ∧
      (∀ d ∈ before, d.2 < e.2) ∧
      ∀ d ∈ behind, d.2 ≤ e.2 := by
  rw [dominant]
  induction c.entries using List.reverseRecOn with
  | nil =>
      exact Or.inl ⟨rfl, rfl⟩
  | append_singleton entries last ih =>
      refine Or.inr ?_
      rw [List.foldl_append]
      rcases ih with ⟨hnone, rfl⟩ | ⟨before, e, behind, hbest, rfl, hbefore, hbehind⟩
      · exact ⟨[], last, [], rfl, rfl, by simp, by simp⟩
      · rw [hbest]
        by_cases hmore : e.2 < last.2
        · refine ⟨before ++ e :: behind, last, [], ?_, by simp, ?_, by simp⟩
          · simp [better, hmore]
          · intro d hd
            rcases List.mem_append.1 hd with hd | hd
            · exact Nat.lt_trans (hbefore d hd) hmore
            · rcases List.mem_cons.1 hd with rfl | hd
              · exact hmore
              · exact Nat.lt_of_le_of_lt (hbehind d hd) hmore
        · refine ⟨before, e, behind ++ [last], ?_, by simp, hbefore, ?_⟩
          · simp [better, hmore]
          · intro d hd
            rcases List.mem_append.1 hd with hd | hd
            · exact hbehind d hd
            · rw [List.mem_singleton.1 hd]
              omega

end KindCounts
end TableLexer
