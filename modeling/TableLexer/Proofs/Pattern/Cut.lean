import TableLexer.Proofs.Pattern.Reach

/-!
# Cutting a text

What a pattern takes from the head of a text changes in one way only when the text is
cut: the places behind the cut are gone.  This needs that the pattern asks nothing at
the cut that is answered otherwise at the end of a text; a pattern without questions
asks nothing at all.

So a match that ends at the cut stays the match, and where nothing matches in the
whole text nothing matches in the cut one (`chars?_of_append`).  A character that no set
of the pattern holds cuts the text as its end does (`chars?_append_cons`).
-/

namespace TableLexer
namespace Pattern

theorem runLength_eq_min
    (s : CharSet)
    (v more : List Char) :
    runLength s v = min (runLength s (v ++ more)) v.length := by
  induction v with
  | nil =>
      simp
  | cons c v ih =>
      by_cases hc : s.contains c = true
      · rw [List.cons_append, runLength_cons_of_contains _ hc,
          runLength_cons_of_contains _ hc, ih, List.length_cons]
        omega
      · rw [List.cons_append, runLength_cons_of_not_contains _ hc,
          runLength_cons_of_not_contains _ hc, Nat.zero_min]

theorem runLength_append_cons_le
    {s : CharSet} {x : Char}
    (hx : ¬ s.contains x = true)
    (v rest : List Char) :
    runLength s (v ++ x :: rest) ≤ v.length := by
  induction v with
  | nil =>
      rw [List.nil_append, runLength_cons_of_not_contains rest hx]
      exact Nat.zero_le _
  | cons c v ih =>
      rw [List.cons_append]
      by_cases hc : s.contains c = true
      · rw [runLength_cons_of_contains _ hc, List.length_cons]
        omega
      · rw [runLength_cons_of_not_contains _ hc]
        exact Nat.zero_le _

theorem head?_not_contains_of_runLength
    {s : CharSet} {v more : List Char}
    (h : runLength s (v ++ more) = v.length) :
    more.head?.any s.contains = false := by
  induction v with
  | nil =>
      cases more with
      | nil =>
          rfl
      | cons x more =>
          by_cases hx : s.contains x = true
          · rw [List.nil_append, runLength_cons_of_contains _ hx] at h
            cases h
          · simpa using hx
  | cons c v ih =>
      rw [List.cons_append] at h
      by_cases hc : s.contains c = true
      · rw [runLength_cons_of_contains _ hc, List.length_cons,
          Nat.add_right_cancel_iff] at h
        exact ih h
      · rw [runLength_cons_of_not_contains _ hc] at h
        cases h

theorem range_filter_le
    (m n : Nat) :
    (List.range (m + 1)).filter (· ≤ n) = List.range (min m n + 1) := by
  induction m with
  | zero =>
      simp
  | succ m ih =>
      rw [List.range_succ, List.filter_append, ih]
      by_cases hle : m + 1 ≤ n
      · rw [Nat.min_eq_left hle, Nat.min_eq_left (by omega), List.range_succ (n := m + 1)]
        simp [hle]
      · rw [Nat.min_eq_right (by omega), Nat.min_eq_right (by omega)]
        simp [hle]

theorem flatMap_filter_eq
    (p : Nat → Bool)
    (f : Nat → List Nat)
    (xs : List Nat) :
    (xs.filter p).flatMap f = xs.flatMap fun n => if p n then f n else [] := by
  induction xs with
  | nil =>
      rfl
  | cons n xs ih =>
      cases hn : p n <;> simp [hn, ih]

namespace Plain

/-- The questions of the pattern. -/
def looks : Plain → List Look
  | look l => [l]
  | seq p q | alt p q => p.looks ++ q.looks
  | empty | one _ | many _ _ => []

/-- The sets of the pattern. -/
def sets : Plain → List CharSet
  | one s | many s _ => [s]
  | seq p q | alt p q => p.sets ++ q.sets
  | empty | look _ => []

/-- Nothing that the pattern asks is answered otherwise before this character than at
the end of a text. -/
def BlindTo (after : Option Char) (p : Plain) : Prop :=
  ∀ l ∈ p.looks, ∀ before, l.holds before after = l.holds before none

/-- The edge of a word lies before a character that is in no word as it lies before the
end of a text. -/
theorem blindTo_of_edges
    {p : Plain} {after : Option Char}
    (h : ∀ l ∈ p.looks, l = .word .edge false)
    (hafter : after.any Text.isAsciiWord = false) :
    p.BlindTo after := by
  intro l hl before
  have hword : after.any (Look.inWord false) = false := hafter
  rw [h l hl]
  simp [Look.holds, hword]

theorem blindTo_of_looks_eq_nil
    {p : Plain}
    (h : p.looks = [])
    (after : Option Char) :
    p.BlindTo after := by
  intro l hl
  rw [h] at hl
  cases hl

/-- Of the places in the whole text those within the cut text are left. -/
theorem takes_eq_filter
    {p : Plain} {more : List Char}
    (h : p.BlindTo more.head?)
    (before : Option Char)
    (v : List Char) :
    p.takes before v = (p.takes before (v ++ more)).filter (· ≤ v.length) := by
  induction p generalizing before v with
  | empty =>
      rfl
  | one s =>
      cases v with
      | nil =>
          cases more with
          | nil =>
              rfl
          | cons x more =>
              by_cases hx : s.contains x = true <;> simp [takes, hx]
      | cons c v =>
          by_cases hc : s.contains c = true <;> simp [takes, hc]
  | many s greedy =>
      cases greedy with
      | true =>
          rw [takes, takes, List.filter_reverse, range_filter_le, ← runLength_eq_min]
      | false =>
          rw [takes, takes, range_filter_le, ← runLength_eq_min]
  | look l =>
      have hanswer : l.holds before (v ++ more).head? = l.holds before v.head? := by
        cases v with
        | nil =>
            exact h l (List.mem_singleton.2 rfl) before
        | cons c v =>
            rfl
      rw [takes, takes, hanswer]
      by_cases hl : l.holds before v.head? = true <;> simp [hl]
  | seq p q ihp ihq =>
      obtain ⟨hp, hq⟩ := List.forall_mem_append.1 h
      rw [takes, takes, ihp hp, flatMap_filter_eq, List.filter_flatMap]
      congr 1
      funext n
      -- What the first pattern takes beyond the cut, the second only takes further.
      by_cases hn : n ≤ v.length
      · rw [if_pos (by simpa using hn), ihq hq, List.filter_map,
          List.take_append_of_le_length hn, List.drop_append_of_le_length hn]
        congr 2
        funext m
        rw [List.length_drop, Function.comp_apply, decide_eq_decide]
        omega
      · rw [if_neg (by simpa using hn), eq_comm, List.filter_eq_nil_iff]
        intro m hm
        obtain ⟨k, _, rfl⟩ := List.mem_map.1 hm
        simp only [decide_eq_true_eq]
        omega
  | alt p q ihp ihq =>
      obtain ⟨hp, hq⟩ := List.forall_mem_append.1 h
      rw [takes, takes, List.filter_append, ihp hp, ihq hq]

/-- A character that no set holds is never taken. -/
theorem le_length_of_mem_takes_append
    {p : Plain} {x : Char}
    (h : ∀ s ∈ p.sets, ¬ s.contains x = true)
    {before : Option Char}
    {v rest : List Char} {n : Nat}
    (hn : n ∈ p.takes before (v ++ x :: rest)) :
    n ≤ v.length := by
  induction p generalizing before v n with
  | empty =>
      simp [takes] at hn
      omega
  | one s =>
      have hx := h s (List.mem_singleton.2 rfl)
      cases v with
      | nil =>
          simp [takes, hx] at hn
      | cons c v =>
          simp [takes] at hn
          rw [hn.2, List.length_cons]
          omega
  | many s greedy =>
      have hx := h s (List.mem_singleton.2 rfl)
      have hrun := runLength_append_cons_le hx v rest
      cases greedy <;> simp [takes] at hn <;> omega
  | look l =>
      simp [takes] at hn
      omega
  | seq p q ihp ihq =>
      obtain ⟨hp, hq⟩ := List.forall_mem_append.1 h
      simp only [takes, List.mem_flatMap, List.mem_map] at hn
      obtain ⟨k, hk, m, hm, rfl⟩ := hn
      have hle := ihp hp hk
      rw [List.drop_append_of_le_length hle] at hm
      have hle' := ihq hq hm
      rw [List.length_drop] at hle'
      omega
  | alt p q ihp ihq =>
      obtain ⟨hp, hq⟩ := List.forall_mem_append.1 h
      rcases List.mem_append.1 hn with hn | hn
      · exact ihp hp hn
      · exact ihq hq hn

/-- A pattern that ends in a run takes the whole run. -/
theorem head?_takes_seq_many
    (p : Plain) (s : CharSet)
    (before : Option Char) (text : List Char) :
    ((seq p (many s true)).takes before text).head?
      =
    ((p.takes before text).head?).map fun n => n + runLength s (text.drop n) := by
  rw [takes]
  cases p.takes before text with
  | nil =>
      rfl
  | cons n ns =>
      simp [takes, List.range_succ]

theorem head?_not_contains_of_many
    {p : Plain} {s : CharSet} {v more : List Char}
    (h : (seq p (many s true)).chars? (v ++ more) = some v.length) :
    more.head?.any s.contains = false := by
  obtain ⟨hhead, _⟩ := Option.filter_eq_some_iff.1 h
  rw [head?_takes_seq_many] at hhead
  obtain ⟨n, _, hlen⟩ := Option.map_eq_some_iff.1 hhead
  have hle : n ≤ v.length := by omega
  apply @head?_not_contains_of_runLength s (v.drop n)
  rw [List.drop_append_of_le_length hle] at hlen
  rw [List.length_drop]
  omega

/-- A match of the whole text that ends within the cut text is the match there. -/
theorem chars?_of_append
    {p : Plain} {v more : List Char}
    (h : p.BlindTo more.head?)
    {n : Nat}
    (hn : p.chars? (v ++ more) = some n)
    (hle : n ≤ v.length) :
    p.chars? v = some n := by
  unfold chars? at hn ⊢
  rw [takes_eq_filter h]
  cases htakes : p.takes none (v ++ more) with
  | nil =>
      simp [htakes] at hn
  | cons m ms =>
      simp [htakes] at hn
      obtain ⟨rfl, hpos⟩ := hn
      simp [hpos, hle]

theorem chars?_of_append_none
    {p : Plain} {v more : List Char}
    (h : p.BlindTo more.head?)
    (hnone : p.chars? (v ++ more) = none) :
    p.chars? v = none := by
  unfold chars? at hnone ⊢
  rw [takes_eq_filter h]
  cases htakes : p.takes none (v ++ more) with
  | nil =>
      rfl
  | cons m ms =>
      simp [htakes] at hnone
      subst hnone
      simp

/-- A character that no set holds cuts the text. -/
theorem chars?_append_cons
    {p : Plain} {x : Char}
    (hsets : ∀ s ∈ p.sets, ¬ s.contains x = true)
    (hblind : p.BlindTo (some x))
    (v rest : List Char) :
    p.chars? (v ++ x :: rest) = p.chars? v := by
  have hall :
      (p.takes none (v ++ x :: rest)).filter (· ≤ v.length)
        =
      p.takes none (v ++ x :: rest) := by
    rw [List.filter_eq_self]
    intro n hn
    simpa using le_length_of_mem_takes_append hsets hn
  unfold chars?
  rw [@takes_eq_filter p (x :: rest) hblind none v, hall]

end Plain
end Pattern
end TableLexer
