import TableLexer.Proofs.Pattern.Reach

/-!
# What a pattern accepts

A pattern accepts a text between the character before it and the text behind it.  It
can take a number of characters from the head of a text exactly when it accepts that
beginning of the text (`length_mem_takes_iff`).

Some properties of the accepted texts can be read off the pattern, and the tables are
checked for them by evaluation: whether the empty text is accepted at all, which
characters an accepted text starts and ends with, and whether it stops at the edge of a
word.
-/

namespace TableLexer
namespace Pattern

theorem length_le_runLength_iff
    {s : CharSet} {w rest : List Char} :
    w.length ≤ runLength s (w ++ rest)
      ↔
    ∀ c ∈ w, s.contains c = true := by
  induction w with
  | nil =>
      simp
  | cons c w ih =>
      by_cases hc : s.contains c = true
      · rw [List.cons_append, runLength_cons_of_contains _ hc, List.length_cons,
          Nat.add_le_add_iff_right, ih]
        simp [hc]
      · rw [List.cons_append, runLength_cons_of_not_contains _ hc]
        simp [hc]

namespace CharSet

theorem lt_of_isAscii
    {s : CharSet} {n : Nat}
    (h : s.isAscii = true)
    (hn : covers n s.ranges = true) :
    n < 128 := by
  obtain ⟨ranges⟩ := s
  induction ranges with
  | nil =>
      cases hn
  | cons r ranges ih =>
      obtain ⟨first, last⟩ := r
      rw [isAscii, List.all_cons, Bool.and_eq_true] at h
      simp only [covers] at hn
      split at hn
      · cases hn
      · rcases (Bool.or_eq_true _ _).mp hn with hle | hrest
        · have hlast : last < 128 := by simpa using h.1
          have hle' : n ≤ last := by simpa using hle
          omega
        · exact ih h.2 hrest

/-- What holds of the ASCII characters that pass a test holds of all that do, if only
ASCII characters pass it. -/
theorem forall_of_ascii
    (test goal : Char → Bool)
    (hascii : ∀ c, test c = true → c.toNat < 128)
    (h : ∀ n < 128, test (Char.ofNat n) = true → goal (Char.ofNat n) = true)
    {c : Char}
    (hc : test c = true) :
    goal c = true := by
  have hgoal := h c.toNat (hascii c hc)
  rw [Char.ofNat_toNat] at hgoal
  exact hgoal hc

/-- The set holds nothing but ASCII characters of the other one. -/
def within (s t : CharSet) : Bool :=
  s.isAscii && (List.range 128).all fun n => !covers n s.ranges || covers n t.ranges

theorem contains_of_within
    {s t : CharSet} {c : Char}
    (h : s.within t = true)
    (hc : s.contains c = true) :
    t.contains c = true := by
  rw [within, Bool.and_eq_true, List.all_eq_true] at h
  have hn := h.2 c.toNat (List.mem_range.2 (lt_of_isAscii h.1 hc))
  rw [show covers c.toNat s.ranges = true from hc] at hn
  exact hn

def lacks (s : CharSet) (cs : List Char) : Bool :=
  cs.all fun c => !s.contains c

theorem not_contains_of_lacks
    {s : CharSet} {cs : List Char} {c : Char}
    (h : s.lacks cs = true)
    (hc : c ∈ cs) :
    ¬ s.contains c = true := by
  have hnot := List.all_eq_true.1 h c hc
  simpa using hnot

theorem lt_of_isAsciiWord
    {c : Char}
    (h : Text.isAsciiWord c = true) :
    c.toNat < 128 := by
  unfold Text.isAsciiWord Char.isAlphanum Char.isAlpha Char.isUpper Char.isLower
    Char.isDigit at h
  simp only [Bool.or_eq_true, Bool.and_eq_true, decide_eq_true_eq, beq_iff_eq,
    UInt32.le_iff_toNat_le] at h
  have hval : c.toNat = c.val.toNat := rfl
  rcases h with ((⟨_, h⟩ | ⟨_, h⟩) | ⟨_, h⟩) | rfl
  · simp at h; omega
  · simp at h; omega
  · simp at h; omega
  · decide

theorem contains_of_isAsciiWord
    {c : Char}
    (h : Text.isAsciiWord c = true) :
    asciiWord.contains c = true :=
  forall_of_ascii _ _ (fun _ => lt_of_isAsciiWord) (by decide) h

theorem isAsciiWord_of_contains
    {c : Char}
    (h : asciiWord.contains c = true) :
    Text.isAsciiWord c = true :=
  forall_of_ascii _ _ (fun _ => lt_of_isAscii (by decide)) (by decide) h

end CharSet

theorem Look.holds_edge
    (before after : Option Char) :
    (word .edge false).holds before after
      =
    (before.any Text.isAsciiWord != after.any Text.isAsciiWord) := by
  rfl

namespace Plain

/-- The pattern accepts the text `w`, with this character before it and with `rest`
behind it. -/
def Accepts : Plain → Option Char → List Char → List Char → Prop
  | empty, _, w, _ => w = []
  | one s, _, w, _ => ∃ c, w = [c] ∧ s.contains c = true
  | many s _, _, w, _ => ∀ c ∈ w, s.contains c = true
  | look l, before, w, rest => w = [] ∧ l.holds before rest.head? = true
  | seq p q, before, w, rest =>
    ∃ u v, w = u ++ v ∧ p.Accepts before u (v ++ rest) ∧ q.Accepts (behind before u) v rest
  | alt p q, before, w, rest => p.Accepts before w rest ∨ q.Accepts before w rest

/-- A pattern can take exactly the beginnings that it accepts. -/
theorem length_mem_takes_iff
    {p : Plain} {before : Option Char}
    {w rest : List Char} :
    w.length ∈ p.takes before (w ++ rest)
      ↔
    p.Accepts before w rest := by
  induction p generalizing before w rest with
  | empty =>
      simp [takes, Accepts]
  | one s =>
      cases w with
      | nil =>
          cases rest with
          | nil =>
              simp [takes, Accepts]
          | cons c rest =>
              by_cases hc : s.contains c = true <;> simp [takes, Accepts, hc]
      | cons c w =>
          by_cases hc : s.contains c = true <;> simp [takes, Accepts, hc]
  | many s greedy =>
      rw [Accepts, ← @length_le_runLength_iff s w rest]
      cases greedy <;> simp only [takes, List.mem_reverse, List.mem_range, Nat.lt_succ_iff]
  | look l =>
      cases w with
      | nil =>
          by_cases hl : l.holds before rest.head? = true <;> simp [takes, Accepts, hl]
      | cons c w =>
          by_cases hl : l.holds before (some c) = true <;> simp [takes, Accepts, hl]
  | seq p q ihp ihq =>
      simp only [takes, List.mem_flatMap, List.mem_map]
      constructor
      · -- The first part of `w` is what the first pattern takes.
        rintro ⟨n, hn, k, hk, hlen⟩
        have hle : n ≤ w.length := by omega
        rw [List.take_append_of_le_length hle, List.drop_append_of_le_length hle] at hk
        refine ⟨w.take n, w.drop n, (List.take_append_drop n w).symm, ?_, ?_⟩
        · rw [← ihp, ← List.append_assoc, List.take_append_drop, List.length_take,
            Nat.min_eq_left hle]
          exact hn
        · rw [← ihq, List.length_drop, ← hlen, Nat.add_sub_cancel_left]
          exact hk
      · rintro ⟨u, v, rfl, hu, hv⟩
        refine ⟨u.length, ?_, v.length, ?_, List.length_append.symm⟩
        · rw [List.append_assoc]
          exact ihp.2 hu
        · rw [List.append_assoc, List.take_left, List.drop_left]
          exact ihq.2 hv
  | alt p q ihp ihq =>
      rw [takes, List.mem_append, ihp, ihq, Accepts]

/-- The match of a pattern is an accepted text, and not the empty one. -/
theorem exists_accepts_of_chars?
    {p : Plain} {text : List Char} {n : Nat}
    (h : p.chars? text = some n) :
    ∃ w rest, text = w ++ rest ∧ w.length = n ∧ w ≠ [] ∧ p.Accepts none w rest := by
  obtain ⟨hhead, hpos⟩ := Option.filter_eq_some_iff.1 h
  have hmem := List.mem_of_head? hhead
  have hle := le_length_of_mem_takes hmem
  have hlen : (text.take n).length = n := by
    rw [List.length_take, Nat.min_eq_left hle]
  refine ⟨text.take n, text.drop n, (List.take_append_drop n text).symm, hlen, ?_, ?_⟩
  · apply List.ne_nil_of_length_pos
    rw [hlen]
    simpa using hpos
  · rw [← length_mem_takes_iff, List.take_append_drop, hlen]
    exact hmem

theorem chars?_alt
    {p q : Plain} {text : List Char} {n : Nat}
    (h : (alt p q).chars? text = some n) :
    p.chars? text = some n ∨ q.chars? text = some n := by
  unfold chars? at h ⊢
  rw [takes] at h
  cases htakes : p.takes none text with
  | nil =>
      rw [htakes, List.nil_append] at h
      exact Or.inr h
  | cons m ms =>
      rw [htakes] at h
      exact Or.inl h

/-- The pattern may accept the empty text. -/
def nullable : Plain → Bool
  | one _ => false
  | seq p q => p.nullable && q.nullable
  | alt p q => p.nullable || q.nullable
  | empty | many _ _ | look _ => true

theorem nullable_of_accepts
    {p : Plain} {before : Option Char}
    {rest : List Char}
    (h : p.Accepts before [] rest) :
    p.nullable = true := by
  induction p generalizing before rest with
  | empty =>
      rfl
  | one s =>
      obtain ⟨c, hc, _⟩ := h
      cases hc
  | many s greedy =>
      rfl
  | look l =>
      rfl
  | seq p q ihp ihq =>
      obtain ⟨u, v, huv, hu, hv⟩ := h
      obtain ⟨rfl, rfl⟩ := List.append_eq_nil_iff.1 huv.symm
      rw [nullable, ihp hu, ihq hv]
      rfl
  | alt p q ihp ihq =>
      rw [nullable, Bool.or_eq_true]
      exact h.imp ihp ihq

/-- A pattern that cannot take nothing matches where it can take anything. -/
theorem chars?_ne_none_of_accepts
    {p : Plain} {w rest : List Char}
    (hnullable : p.nullable = false)
    (hw : p.Accepts none w rest) :
    p.chars? (w ++ rest) ≠ none := by
  have hmem := length_mem_takes_iff.2 hw
  unfold chars?
  cases htakes : p.takes none (w ++ rest) with
  | nil =>
      rw [htakes] at hmem
      cases hmem
  | cons n ns =>
      have hn : n ≠ 0 := by
        rintro rfl
        have hzero : (([] : List Char)).length ∈ p.takes none ([] ++ (w ++ rest)) := by
          simp [htakes]
        rw [nullable_of_accepts (length_mem_takes_iff.1 hzero)] at hnullable
        cases hnullable
      simpa using hn

/-- The sets that the first character of an accepted text is taken from. -/
def starts : Plain → List CharSet
  | empty | look _ => []
  | one s | many s _ => [s]
  | seq p q => if p.nullable then p.starts ++ q.starts else p.starts
  | alt p q => p.starts ++ q.starts

theorem exists_start_of_accepts
    {p : Plain} {before : Option Char}
    {c : Char} {w rest : List Char}
    (h : p.Accepts before (c :: w) rest) :
    ∃ s ∈ p.starts, s.contains c = true := by
  induction p generalizing before w rest with
  | empty =>
      cases h
  | one s =>
      obtain ⟨d, hd, hs⟩ := h
      cases hd
      exact ⟨s, List.mem_singleton.2 rfl, hs⟩
  | many s greedy =>
      exact ⟨s, List.mem_singleton.2 rfl, h c List.mem_cons_self⟩
  | look l =>
      cases h.1
  | seq p q ihp ihq =>
      obtain ⟨u, v, huv, hu, hv⟩ := h
      rw [starts]
      cases u with
      | nil =>
          rw [List.nil_append] at huv
          subst huv
          obtain ⟨s, hs, hc⟩ := ihq hv
          rw [if_pos (nullable_of_accepts hu)]
          exact ⟨s, List.mem_append_right _ hs, hc⟩
      | cons d u =>
          cases huv
          obtain ⟨s, hs, hc⟩ := ihp hu
          refine ⟨s, ?_, hc⟩
          split
          · exact List.mem_append_left _ hs
          · exact hs
  | alt p q ihp ihq =>
      rcases h with hp | hq
      · obtain ⟨s, hs, hc⟩ := ihp hp
        exact ⟨s, List.mem_append_left _ hs, hc⟩
      · obtain ⟨s, hs, hc⟩ := ihq hq
        exact ⟨s, List.mem_append_right _ hs, hc⟩

/-- A pattern matches no text with a first character that it cannot start with. -/
theorem chars?_eq_none_of_starts
    {p : Plain} {c : Char}
    (h : ∀ s ∈ p.starts, ¬ s.contains c = true)
    (rest : List Char) :
    p.chars? (c :: rest) = none := by
  cases hn : p.chars? (c :: rest) with
  | none =>
      rfl
  | some n =>
      obtain ⟨w, more, htext, _, hne, hw⟩ := exists_accepts_of_chars? hn
      obtain ⟨d, w, rfl⟩ := List.exists_cons_of_ne_nil hne
      cases htext
      obtain ⟨s, hs, hc⟩ := exists_start_of_accepts hw
      exact absurd hc (h s hs)

/-- The sets that the last character of an accepted text is taken from. -/
def ends : Plain → List CharSet
  | empty | look _ => []
  | one s | many s _ => [s]
  | seq p q => if q.nullable then p.ends ++ q.ends else q.ends
  | alt p q => p.ends ++ q.ends

theorem exists_end_of_accepts
    {p : Plain} {before : Option Char}
    {w rest : List Char}
    (h : p.Accepts before w rest)
    (hne : w ≠ []) :
    ∃ s ∈ p.ends, s.contains (w.getLast hne) = true := by
  induction p generalizing before w rest with
  | empty =>
      exact absurd h hne
  | one s =>
      obtain ⟨c, rfl, hc⟩ := h
      exact ⟨s, List.mem_singleton.2 rfl, hc⟩
  | many s greedy =>
      exact ⟨s, List.mem_singleton.2 rfl, h _ (List.getLast_mem hne)⟩
  | look l =>
      exact absurd h.1 hne
  | seq p q ihp ihq =>
      obtain ⟨u, v, rfl, hu, hv⟩ := h
      rw [ends]
      by_cases hv' : v = []
      · subst hv'
        have hu' : u ≠ [] := by simpa using hne
        obtain ⟨s, hs, hc⟩ := ihp hu hu'
        rw [if_pos (nullable_of_accepts hv)]
        refine ⟨s, List.mem_append_left _ hs, ?_⟩
        simpa using hc
      · obtain ⟨s, hs, hc⟩ := ihq hv hv'
        refine ⟨s, ?_, ?_⟩
        · split
          · exact List.mem_append_right _ hs
          · exact hs
        · rw [List.getLast_append_of_ne_nil _ hv']
          exact hc
  | alt p q ihp ihq =>
      rcases h with hp | hq
      · obtain ⟨s, hs, hc⟩ := ihp hp hne
        exact ⟨s, List.mem_append_left _ hs, hc⟩
      · obtain ⟨s, hs, hc⟩ := ihq hq hne
        exact ⟨s, List.mem_append_right _ hs, hc⟩

/-- The pattern asks for the edge of an ASCII word last, whichever way is taken. -/
def closes : Plain → Bool
  | look l => l == .word .edge false
  | seq _ q => q.closes
  | alt p q => p.closes && q.closes
  | empty | one _ | many _ _ => false

theorem edge_of_closes
    {p : Plain} {before : Option Char}
    {w rest : List Char}
    (hcloses : p.closes = true)
    (h : p.Accepts before w rest) :
    (Look.word .edge false).holds (behind before w) rest.head? = true := by
  induction p generalizing before w rest with
  | empty =>
      cases hcloses
  | one s =>
      cases hcloses
  | many s greedy =>
      cases hcloses
  | look l =>
      obtain ⟨rfl, hl⟩ := h
      rw [closes, beq_iff_eq] at hcloses
      rw [← hcloses]
      exact hl
  | seq p q ihp ihq =>
      obtain ⟨u, v, rfl, _, hv⟩ := h
      rw [behind_append]
      exact ihq hcloses hv
  | alt p q ihp ihq =>
      rw [closes, Bool.and_eq_true] at hcloses
      rcases h with hp | hq
      · exact ihp hcloses.1 hp
      · exact ihq hcloses.2 hq

/-- A pattern that ends in a word and asks for its edge matches up to the end of the
word only. -/
theorem head?_not_word_of_closes
    {p : Plain} {v more : List Char}
    (hcloses : p.closes = true)
    (hends : ∀ s ∈ p.ends, s.within .asciiWord = true)
    (h : p.chars? (v ++ more) = some v.length) :
    more.head?.any Text.isAsciiWord = false := by
  obtain ⟨w, rest, htext, hlen, hne, hw⟩ := exists_accepts_of_chars? h
  obtain ⟨rfl, rfl⟩ := List.append_inj htext hlen.symm
  have hedge := edge_of_closes hcloses hw
  rw [behind_of_ne_nil none hne] at hedge
  obtain ⟨s, hs, hc⟩ := exists_end_of_accepts hw hne
  have hlast :=
    CharSet.isAsciiWord_of_contains (CharSet.contains_of_within (hends s hs) hc)
  simpa [Look.holds_edge, hlast] using hedge

end Plain
end Pattern
end TableLexer
