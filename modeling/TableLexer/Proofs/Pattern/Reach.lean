import Mathlib.Data.List.Basic
import TableLexer.Pattern.Matcher

/-!
# The reach of a pattern

A plain pattern is walked by handing every place that it reaches to the rest of
the match.  Here the places are listed instead: `Plain.takes` gives the numbers of
characters that the pattern can take from the head of a text, in order of
preference.  The walk answers for the first place of that list which its rest
accepts, so the match of a rule is the head of the list.

The list never leaves the text, and neither does an automaton: whatever a matcher
finds ends within the text that it was given.
-/

namespace TableLexer
namespace Pattern

/-- The character before the place behind a text. -/
def behind
    (before : Option Char)
    (text : List Char) :
    Option Char :=
  text.foldl (fun _ c => some c) before

@[simp] theorem behind_nil
    (before : Option Char) :
    behind before [] = before := by
  rfl

@[simp] theorem behind_cons
    (before : Option Char)
    (c : Char) (text : List Char) :
    behind before (c :: text) = behind (some c) text := by
  rfl

theorem behind_append
    (before : Option Char)
    (u v : List Char) :
    behind before (u ++ v) = behind (behind before u) v := by
  simp [behind]

theorem behind_of_ne_nil
    (before : Option Char)
    {text : List Char}
    (h : text ≠ []) :
    behind before text = some (text.getLast h) := by
  induction text generalizing before with
  | nil =>
      exact absurd rfl h
  | cons c rest ih =>
      cases rest with
      | nil =>
          rfl
      | cons d rest =>
          rw [behind_cons, ih (some c) (by simp)]
          simp

/-- The cursor moved on by a number of characters. -/
def Cursor.forward
    (c : Cursor) (n : Nat) :
    Cursor :=
  ⟨behind c.before (c.rest.take n), c.rest.drop n, c.passed + n⟩

@[simp] theorem Cursor.forward_zero
    (c : Cursor) :
    c.forward 0 = c := by
  simp [Cursor.forward]

theorem Cursor.forward_forward
    (c : Cursor) (m n : Nat) :
    (c.forward m).forward n = c.forward (m + n) := by
  simp [Cursor.forward, List.take_add, behind_append, Nat.add_assoc]

theorem Cursor.forward_succ
    (before : Option Char)
    (x : Char) (rest : List Char)
    (passed n : Nat) :
    (Cursor.mk before (x :: rest) passed).forward (n + 1)
      =
    (Cursor.mk (some x) rest (passed + 1)).forward n := by
  simp [Cursor.forward, Nat.add_comm, Nat.add_left_comm]

/-- The length of the longest run of the set at the head of a text. -/
def runLength
    (s : CharSet)
    (text : List Char) :
    Nat :=
  (text.takeWhile s.contains).length

@[simp] theorem runLength_nil
    (s : CharSet) :
    runLength s [] = 0 := by
  rfl

theorem runLength_cons_of_contains
    {s : CharSet} {c : Char}
    (rest : List Char)
    (h : s.contains c = true) :
    runLength s (c :: rest) = runLength s rest + 1 := by
  simp [runLength, h]

theorem runLength_cons_of_not_contains
    {s : CharSet} {c : Char}
    (rest : List Char)
    (h : ¬ s.contains c = true) :
    runLength s (c :: rest) = 0 := by
  simp [runLength, h]

theorem runLength_le
    (s : CharSet)
    (text : List Char) :
    runLength s text ≤ text.length :=
  (List.takeWhile_prefix s.contains).length_le

theorem reverse_range_succ
    (n : Nat) :
    (List.range (n + 1)).reverse
      =
    (List.range n).reverse.map Nat.succ ++ [0] := by
  rw [List.range_succ_eq_map]
  simp

namespace Plain

/-- The numbers of characters that the pattern can take from the head of a text,
the preferred ones first. -/
def takes : Plain → Option Char → List Char → List Nat
  | empty, _, _ => [0]
  | one _, _, [] => []
  | one s, _, c :: _ => if s.contains c then [1] else []
  | many s true, _, cs => (List.range (runLength s cs + 1)).reverse
  | many s false, _, cs => List.range (runLength s cs + 1)
  | look l, before, cs => if l.holds before cs.head? then [0] else []
  | seq p q, before, cs =>
    (p.takes before cs).flatMap fun n =>
      (q.takes (behind before (cs.take n)) (cs.drop n)).map (n + ·)
  | alt p q, before, cs => p.takes before cs ++ q.takes before cs

end Plain

/-- The places along a run are those that moving on within it reaches. -/
theorem furthestFirst_eq
    (s : CharSet)
    (found : List Cursor)
    (before : Option Char)
    (passed : Nat)
    (rest : List Char) :
    furthestFirst s found before passed rest
      =
    (List.range (runLength s rest + 1)).reverse.map
        (Cursor.mk before rest passed).forward ++ found := by
  induction rest generalizing found before passed with
  | nil =>
      simp [furthestFirst]
  | cons x rest ih =>
      by_cases hx : s.contains x = true
      · rw [furthestFirst, if_pos hx, ih, runLength_cons_of_contains rest hx,
          reverse_range_succ (runLength s rest + 1)]
        simp [Cursor.forward_succ, Function.comp_def]
      · rw [furthestFirst, if_neg hx, runLength_cons_of_not_contains rest hx]
        simp

/-- The nearest accepted place along a run, by moving on within it. -/
theorem nearestFirst_eq
    {α : Type}
    (s : CharSet)
    (next : Cursor → Option α)
    (before : Option Char)
    (passed : Nat)
    (rest : List Char) :
    nearestFirst s next before passed rest
      =
    (List.range (runLength s rest + 1)).findSome?
        (fun n => next ((Cursor.mk before rest passed).forward n)) := by
  induction rest generalizing before passed with
  | nil =>
      simp [nearestFirst]
  | cons x rest ih =>
      rw [nearestFirst]
      cases hnext : next ⟨before, x :: rest, passed⟩ with
      | some a =>
          simp [List.range_succ_eq_map, hnext]
      | none =>
          by_cases hx : s.contains x = true
          · rw [runLength_cons_of_contains rest hx,
              List.range_succ_eq_map (n := runLength s rest + 1)]
            simp only [if_pos hx, ih]
            simp [hnext, List.findSome?_map, Function.comp_def, Cursor.forward_succ]
          · rw [runLength_cons_of_not_contains rest hx]
            simp [hx, hnext]

theorem findSome?_flatMap
    {α β γ : Type}
    (f : β → Option γ)
    (g : α → List β)
    (xs : List α) :
    (xs.flatMap g).findSome? f = xs.findSome? fun x => (g x).findSome? f := by
  induction xs with
  | nil =>
      rfl
  | cons x xs ih =>
      rw [List.flatMap_cons, List.findSome?_append, ih, List.findSome?_cons]
      cases (g x).findSome? f <;> rfl

namespace Plain

/-- The walk answers for the most preferred place that its rest accepts. -/
theorem find_eq_findSome?
    {α : Type}
    (p : Plain)
    (next : Cursor → Option α)
    (c : Cursor) :
    p.find next c
      =
    (p.takes c.before c.rest).findSome? fun n => next (c.forward n) := by
  induction p generalizing next c with
  | empty =>
      simp only [find, takes, List.findSome?_cons, Cursor.forward_zero, List.findSome?_nil]
      cases next c <;> rfl
  | one s =>
      obtain ⟨before, rest, passed⟩ := c
      cases rest with
      | nil =>
          rfl
      | cons x rest =>
          by_cases hx : s.contains x = true
          · simp only [find, takes, if_pos hx, List.findSome?_cons, List.findSome?_nil,
              Cursor.forward_succ, Cursor.forward_zero]
            cases next ⟨some x, rest, passed + 1⟩ <;> rfl
          · simp [find, takes, hx]
  | many s greedy =>
      cases greedy with
      | true =>
          rw [find, furthestFirst_eq, List.append_nil, List.findSome?_map]
          rfl
      | false =>
          exact nearestFirst_eq s next c.before c.passed c.rest
  | look l =>
      by_cases hl : l.holds c.before c.rest.head? = true
      · simp only [find, takes, Cursor.satisfies, if_pos hl, List.findSome?_cons,
          Cursor.forward_zero, List.findSome?_nil]
        cases next c <;> simp [hl]
      · simp [find, takes, Cursor.satisfies, hl]
  | seq p q ihp ihq =>
      rw [find, ihp, takes, findSome?_flatMap]
      congr 1
      funext n
      rw [ihq, List.findSome?_map]
      simp only [Function.comp_def, Cursor.forward_forward]
      rfl
  | alt p q ihp ihq =>
      rw [find, ihp, ihq, takes, List.findSome?_append]
      cases (p.takes c.before c.rest).findSome? fun n => next (c.forward n) <;> rfl

/-- The match ends where the most preferred place lies. -/
theorem stop?_eq_head?
    (p : Plain)
    (text : List Char) :
    p.stop? (.start text) = (p.takes none text).head? := by
  rw [stop?, find_eq_findSome?]
  cases h : p.takes none text with
  | nil =>
      simp [Cursor.start, h]
  | cons n ns =>
      simp [Cursor.start, h, Cursor.forward]

theorem le_length_of_mem_takes
    {p : Plain} {before : Option Char}
    {text : List Char} {n : Nat}
    (h : n ∈ p.takes before text) :
    n ≤ text.length := by
  induction p generalizing before text n with
  | empty =>
      simp [takes] at h
      omega
  | one s =>
      cases text with
      | nil =>
          simp [takes] at h
      | cons c rest =>
          simp [takes] at h
          simp [h.2]
  | many s greedy =>
      have hrun := runLength_le s text
      cases greedy <;> simp [takes] at h <;> omega
  | look l =>
      simp [takes] at h
      omega
  | seq p q ihp ihq =>
      simp only [takes, List.mem_flatMap, List.mem_map] at h
      obtain ⟨m, hm, k, hk, rfl⟩ := h
      have h₁ := ihp hm
      have h₂ := ihq hk
      rw [List.length_drop] at h₂
      omega
  | alt p q ihp ihq =>
      rcases List.mem_append.1 h with hp | hq
      · exact ihp hp
      · exact ihq hq

/-- Behind the start of the text a pattern takes what it takes there. -/
theorem takes_textStart_seq
    (p : Plain)
    (text : List Char) :
    (seq (look .textStart) p).takes none text = p.takes none text := by
  simp [takes, Look.holds]

/-- The number of characters that the pattern prefers to take from the start of a
text, unless that is none. -/
def chars?
    (p : Plain)
    (text : List Char) :
    Option Nat :=
  (p.takes none text).head?.filter (0 < ·)

theorem chars?_le_length
    {p : Plain} {text : List Char} {n : Nat}
    (h : p.chars? text = some n) :
    n ≤ text.length :=
  le_length_of_mem_takes (List.mem_of_head? (Option.filter_eq_some_iff.1 h).1)

theorem chars?_one
    (s : CharSet)
    (c : Char) (rest : List Char) :
    (one s).chars? (c :: rest) = if s.contains c then some 1 else none := by
  by_cases hc : s.contains c = true
  · simp only [chars?, takes, if_pos hc]
    rfl
  · simp only [chars?, takes, if_neg hc]
    rfl

theorem chars?_one_many
    (s t : CharSet)
    (c : Char) (rest : List Char) :
    (seq (one s) (many t true)).chars? (c :: rest)
      =
    if s.contains c then some (runLength t rest + 1) else none := by
  by_cases hc : s.contains c = true
  · simp only [chars?, takes, if_pos hc, List.flatMap_cons, List.flatMap_nil,
      List.append_nil, List.drop_one, List.tail_cons, List.range_succ, List.reverse_append]
    simp [Nat.add_comm 1]
  · simp [chars?, takes, hc]

end Plain

namespace Automaton

/-- A run that goes on from a place ends between that place and the end of the text,
unless it falls back on the match that it already had. -/
theorem follow_eq_some
    (a : Automaton)
    {stop : Option Nat} {found : Found}
    {passed n : Nat} {text : List Char}
    (h : a.follow stop found passed text = some n) :
    stop = some n ∨ passed ≤ n ∧ n ≤ passed + text.length := by
  induction text generalizing stop found passed with
  | nil =>
      rw [follow] at h
      split at h
      · simp at h
        omega
      · exact Or.inl h
  | cons c rest ih =>
      rw [follow] at h
      split at h
      · exact Or.inl h
      · rcases ih h with hstop | ⟨hlow, hhigh⟩
        · split at hstop
          · simp at hstop
            simp only [List.length_cons]
            omega
          · exact Or.inl hstop
        · simp only [List.length_cons]
          omega

theorem take?_le_length
    (a : Automaton)
    {before : Option Char}
    {text : List Char} {n : Nat}
    (h : a.take? before text = some n) :
    n ≤ text.length := by
  rcases follow_eq_some a h with hnone | ⟨_, hle⟩
  · cases hnone
  · omega

end Automaton

namespace Engine

theorem stop?_le
    {e : Engine} {c : Cursor} {n : Nat}
    (h : e.stop? c = some n) :
    n ≤ c.passed + c.rest.length := by
  cases e with
  | walk p =>
      simp only [stop?, Plain.stop?, Plain.find_eq_findSome?] at h
      obtain ⟨d, hd, rfl⟩ := Option.map_eq_some_iff.1 h
      obtain ⟨k, hk, hforward⟩ := List.exists_of_findSome?_eq_some hd
      have hle := Plain.le_length_of_mem_takes hk
      cases hforward
      simp only [Cursor.forward]
      omega
  | run a =>
      obtain ⟨k, hk, rfl⟩ := Option.map_eq_some_iff.1 h
      have hle := a.take?_le_length hk
      omega

end Engine

namespace Matcher

theorem searchFrom_stop_le
    {e : Engine} {before : Option Char}
    {passed : Nat} {rest : List Char} {o : Occurrence}
    (h : searchFrom e before passed rest = some o) :
    o.stop ≤ passed + rest.length := by
  induction rest generalizing before passed with
  | nil =>
      rw [searchFrom] at h
      split at h
      · next stop hstop =>
          cases h
          exact Engine.stop?_le hstop
      · cases h
  | cons x rest ih =>
      rw [searchFrom] at h
      split at h
      · next stop hstop =>
          cases h
          exact Engine.stop?_le hstop
      · have hle := ih h
        simp only [List.length_cons]
        omega

/-- A match ends within the text. -/
theorem search_stop_le
    {m : Matcher} {text : List Char} {o : Occurrence}
    (h : m.search text = some o) :
    o.stop ≤ text.length := by
  rw [search] at h
  split at h
  · obtain ⟨stop, hstop, rfl⟩ := Option.map_eq_some_iff.1 h
    have hle := Engine.stop?_le hstop
    simpa [Cursor.start] using hle
  · have hle := searchFrom_stop_le h
    omega

end Matcher

end Pattern
end TableLexer
