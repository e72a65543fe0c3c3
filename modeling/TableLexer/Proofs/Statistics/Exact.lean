import Mathlib.Algebra.GroupWithZero.Nat
import TableLexer.Proofs.Statistics.Counts

/-!
# Statistics are exact

What the statistics of a source say, in terms of the sequence of kinds of its tokens: how
often a kind occurs in it (`List.count`) and where it is first met (`List.idxOf`).

The kinds that have an entry are those that occur, each once and in the order in which they
are first met (`pairwise_idxOf_eraseDups`).  Counting one more token adds one to the sum of
the entries (`sum_bump`), so the entries add up to the number of tokens (`sum_ofKinds`).

The dominant kind is the one first met among the most frequent ones (`FirstOfMost`).  There
is at most one such kind, so the scan for it can be compared with the definition in both
directions (`dominant_eq_some_iff`).
-/

namespace TableLexer

/-- The kinds without repetitions stand in the order in which they are first met. -/
theorem pairwise_idxOf_eraseDups
    (kinds : List Kind) :
    kinds.eraseDups.Pairwise fun j k => kinds.idxOf j < kinds.idxOf k := by
  induction kinds using List.reverseRecOn with
  | nil =>
      simp
  | append_singleton kinds kind ih =>
      have hold : ∀ k ∈ kinds.eraseDups, (kinds ++ [kind]).idxOf k = kinds.idxOf k := by
        intro k hk
        exact List.idxOf_append_of_mem (List.mem_eraseDups.1 hk)
      have hearlier :
          kinds.eraseDups.Pairwise fun j k =>
            (kinds ++ [kind]).idxOf j < (kinds ++ [kind]).idxOf k := by
        refine ih.imp_of_mem ?_
        intro j k hj hk hlt
        rwa [hold j hj, hold k hk]
      rw [eraseDups_concat]
      split
      · exact hearlier
      · next hnew =>
          refine List.pairwise_append.2 ⟨hearlier, List.pairwise_singleton _ _, ?_⟩
          intro j hj k hk
          obtain rfl := List.mem_singleton.1 hk
          rw [hold j hj, List.idxOf_append_of_notMem hnew, List.idxOf_cons_self,
            Nat.add_zero]
          exact List.idxOf_lt_length_of_mem (List.mem_eraseDups.1 hj)

/-- The kind is the one first met among the kinds that occur most often. -/
def FirstOfMost (kinds : List Kind) (k : Kind) : Prop :=
  k ∈ kinds ∧
  ∀ j ∈ kinds,
    kinds.count j < kinds.count k ∨
    (kinds.count j = kinds.count k ∧ kinds.idxOf k ≤ kinds.idxOf j)

theorem FirstOfMost.unique
    {kinds : List Kind} {j k : Kind}
    (hj : FirstOfMost kinds j)
    (hk : FirstOfMost kinds k) :
    j = k := by
  have hfirst : kinds.idxOf j = kinds.idxOf k := by
    have hjk := hj.2 k hk.1
    have hkj := hk.2 j hj.1
    omega
  exact (List.idxOf_inj hj.1).1 hfirst

namespace KindCounts

/-- One more token of a kind is one more in all. -/
theorem sum_bump
    (kind : Kind)
    (entries : List (Kind × Nat)) :
    ((bump kind entries).map Prod.snd).sum = (entries.map Prod.snd).sum + 1 := by
  induction entries with
  | nil =>
      rfl
  | cons e entries ih =>
      obtain ⟨k, n⟩ := e
      rw [bump]
      split
      · simp only [List.map_cons, List.sum_cons]
        omega
      · simp only [List.map_cons, List.sum_cons, ih]
        omega

/-- The entries add up to the length of the sequence. -/
theorem sum_ofKinds
    (kinds : List Kind) :
    ((ofKinds kinds).entries.map Prod.snd).sum = kinds.length := by
  induction kinds using List.reverseRecOn with
  | nil =>
      rfl
  | append_singleton kinds kind ih =>
      rw [ofKinds_concat, increment, sum_bump, ih, List.length_append,
        List.length_singleton]

theorem map_fst_ofKinds
    (kinds : List Kind) :
    (ofKinds kinds).entries.map Prod.fst = kinds.eraseDups := by
  rw [entries_ofKinds, List.map_map]
  exact List.map_id _

theorem mem_ofKinds_iff
    {kinds : List Kind} {k : Kind} {n : Nat} :
    (k, n) ∈ (ofKinds kinds).entries ↔ k ∈ kinds ∧ n = kinds.count k := by
  rw [entries_ofKinds, List.mem_map]
  constructor
  · rintro ⟨j, hj, heq⟩
    cases heq
    exact ⟨List.mem_eraseDups.1 hj, rfl⟩
  · rintro ⟨hk, rfl⟩
    exact ⟨k, List.mem_eraseDups.2 hk, rfl⟩

/-- Asked for any kind, the counts give the number of its occurrences, which is zero where
there is no entry. -/
theorem get_ofKinds
    (kinds : List Kind) (kind : Kind) :
    (ofKinds kinds).get kind = kinds.count kind := by
  rw [get, entries_ofKinds]
  by_cases hmem : kind ∈ kinds
  · rw [List.lookup_graph _ (List.mem_eraseDups.2 hmem)]
    rfl
  · have hnone : (kinds.eraseDups.map fun k => (k, kinds.count k)).lookup kind = none := by
      rw [List.lookup_eq_none_iff]
      rintro ⟨k, n⟩ hk
      obtain ⟨j, hj, heq⟩ := List.mem_map.1 hk
      cases heq
      have hne : kind ≠ k := by
        rintro rfl
        exact hmem (List.mem_eraseDups.1 hj)
      simpa using hne
    rw [hnone, List.count_eq_zero.2 hmem]
    rfl

/-- The dominant entry of a sequence is that of the kind first met among the most frequent
ones. -/
theorem firstOfMost_of_dominant
    {kinds : List Kind} {k : Kind} {n : Nat}
    (h : (ofKinds kinds).dominant = some (k, n)) :
    FirstOfMost kinds k ∧ n = kinds.count k := by
  rcases dominant_cases (ofKinds kinds) with
    ⟨hnone, -⟩ | ⟨before, e, behind, hsome, hentries, hbefore, hbehind⟩
  · rw [hnone] at h
    cases h
  · rw [hsome] at h
    cases h
    have hentry : (k, n) ∈ (ofKinds kinds).entries := by
      rw [hentries]
      exact List.mem_append_right _ List.mem_cons_self
    obtain ⟨hk, rfl⟩ := mem_ofKinds_iff.1 hentry
    have hascend :
        (ofKinds kinds).entries.Pairwise fun a b => kinds.idxOf a.1 < kinds.idxOf b.1 := by
      have hfirst := pairwise_idxOf_eraseDups kinds
      rwa [← map_fst_ofKinds, List.pairwise_map] at hfirst
    rw [hentries] at hascend
    obtain ⟨hlater, -⟩ := List.pairwise_cons.1 (List.pairwise_append.1 hascend).2.1
    refine ⟨⟨hk, ?_⟩, rfl⟩
    intro j hj
    have hother : (j, kinds.count j) ∈ before ++ (k, kinds.count k) :: behind := by
      rw [← hentries]
      exact mem_ofKinds_iff.2 ⟨hj, rfl⟩
    rcases List.mem_append.1 hother with hfront | hrest
    · exact Or.inl (hbefore _ hfront)
    · rcases List.mem_cons.1 hrest with heq | hback
      · cases heq
        exact Or.inr ⟨rfl, Nat.le_refl _⟩
      · have hle := hbehind _ hback
        have hlt := hlater _ hback
        simp only at hle hlt
        omega

theorem dominant_eq_none_iff
    {kinds : List Kind} :
    (ofKinds kinds).dominant = none ↔ kinds = [] := by
  constructor
  · intro hnone
    rcases dominant_cases (ofKinds kinds) with
      ⟨-, hentries⟩ | ⟨before, e, behind, hsome, -⟩
    · have hsum := sum_ofKinds kinds
      rw [hentries] at hsum
      exact List.length_eq_zero_iff.1 hsum.symm
    · rw [hsome] at hnone
      cases hnone
  · rintro rfl
    rfl

theorem dominant_eq_some_iff
    {kinds : List Kind} {k : Kind} {n : Nat} :
    (ofKinds kinds).dominant = some (k, n) ↔ FirstOfMost kinds k ∧ n = kinds.count k := by
  refine ⟨firstOfMost_of_dominant, ?_⟩
  rintro ⟨hk, rfl⟩
  cases hdominant : (ofKinds kinds).dominant with
  | none =>
      rw [dominant_eq_none_iff.1 hdominant] at hk
      cases hk.1
  | some e =>
      obtain ⟨he, hcount⟩ := firstOfMost_of_dominant hdominant
      obtain rfl := he.unique hk
      rw [← hcount]

/-- Of two kinds that are equally frequent, the one that is met first is dominant. -/
example :
    (ofKinds [.identifier, .number, .number, .identifier]).dominant =
      some (.identifier, 2) := by
  decide

end KindCounts

/--
Statistics are exact, whatever the tokens and the source are.  The total is the number of
tokens.  The counts have an entry for the kinds that occur and no others, one for each, in
the order in which the kinds are first met; an entry is the number of tokens of its kind
and never zero, a kind can be asked for whether it has an entry or not, and all entries add
up to the total.  There is a dominant kind if there are any tokens, and it is the one first
met among the most frequent ones, with its number.  The lines are one more than the line
feeds.
-/
theorem statistics_are_exact
    (tokens : List Token) (source : String) :
    let s := Statistics.ofTokens tokens source
    let kinds := tokens.map Token.kind
    s.total = tokens.length ∧
    (∀ k, k ∈ s.counts.entries.map Prod.fst ↔ k ∈ kinds) ∧
    s.counts.entries.Pairwise (fun a b => kinds.idxOf a.1 < kinds.idxOf b.1) ∧
    (∀ e ∈ s.counts.entries, e.2 = kinds.count e.1 ∧ 0 < e.2) ∧
    (∀ k, s.counts.get k = kinds.count k) ∧
    (s.counts.entries.map Prod.snd).sum = s.total ∧
    (s.dominant = none ↔ tokens = []) ∧
    (∀ k n, s.dominant = some (k, n) ↔ FirstOfMost kinds k ∧ n = kinds.count k) ∧
    s.lines = 1 + source.toList.count '\n' := by
  intro s kinds
  have hfirst := KindCounts.map_fst_ofKinds kinds
  refine ⟨rfl, ?_, ?_, ?_, KindCounts.get_ofKinds kinds, ?_, ?_,
    fun k n => KindCounts.dominant_eq_some_iff, Nat.add_comm _ _⟩
  · intro k
    exact hfirst ▸ List.mem_eraseDups
  · have hascend := pairwise_idxOf_eraseDups kinds
    rwa [← hfirst, List.pairwise_map] at hascend
  · rintro ⟨k, n⟩ he
    obtain ⟨hk, rfl⟩ := KindCounts.mem_ofKinds_iff.1 he
    exact ⟨rfl, List.count_pos_iff.2 hk⟩
  · exact (KindCounts.sum_ofKinds kinds).trans (List.length_map _)
  · exact KindCounts.dominant_eq_none_iff.trans List.map_eq_nil_iff

end TableLexer
