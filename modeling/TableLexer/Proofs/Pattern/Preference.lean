import TableLexer.Proofs.Pattern.Accept
import TableLexer.Proofs.Pattern.Cut

/-!
# Preferred texts

A pattern may accept several beginnings of a text, and it takes the one that it
prefers.  Which one that is can often be told from the accepted texts alone.

- A pattern that accepts one beginning at most takes that one
  (`Sole.text?_eq_some_iff`).
- A run behind another part is as long as it can be (`text?_seq_many`), and so is one in
  front of a part that begins with none of its characters (`text?_many_seq`).
- Behind a character, or behind a part that can be missing, a pattern takes what it takes
  alone, if it asks nothing (`text?_one_seq`, `text?_opt_seq`).
- A lazy run tries the nearest place first (`takes_lazy_cons`).
- Some patterns prefer longer texts to shorter ones, though they can end at many places
  and try a part again with fewer characters.  This can be read off a pattern too
  (`eager`): where a part could have gone on, what stands behind it cannot begin.  Such a
  pattern takes the longest text that it accepts (`length_le_of_eager`).
-/

namespace TableLexer

namespace Text

/-- The beginning of a text up to the first closing behind it, which is included. -/
def through?
    (closing : List Char) :
    List Char → Option (List Char)
  | [] => none
  | c :: rest =>
    if closing.isPrefixOf (c :: rest) then
      some closing
    else
      (through? closing rest).map (c :: ·)

/-- Up to a single character the text before it lacks that character. -/
theorem through?_singleton_eq_some_iff
    {q : Char} {text w : List Char} :
    through? [q] text = some w
      ↔
    ∃ u rest, w = u ++ [q] ∧ q ∉ u ∧ text = w ++ rest := by
  induction text generalizing w with
  | nil =>
      constructor
      · intro h
        cases h
      · rintro ⟨u, rest, rfl, _, htext⟩
        simp at htext
  | cons c text ih =>
      rw [through?]
      by_cases hc : c = q
      · subst hc
        simp only [List.isPrefixOf_cons_cons, beq_self_eq_true, List.isPrefixOf_nil_left,
          Bool.and_self, if_true, Option.some.injEq]
        constructor
        · rintro rfl
          exact ⟨[], text, rfl, by simp, rfl⟩
        · rintro ⟨u, rest, rfl, hu, htext⟩
          cases u with
          | nil =>
              rfl
          | cons d u =>
              cases htext
              simp at hu
      · have hnot : [q].isPrefixOf (c :: text) = false := by
          rw [List.isPrefixOf_cons_cons, beq_false_of_ne (Ne.symm hc), Bool.false_and]
        simp only [hnot, Bool.false_eq_true, if_false, Option.map_eq_some_iff, ih]
        constructor
        · rintro ⟨_, ⟨u, rest, rfl, hu, rfl⟩, rfl⟩
          exact ⟨c :: u, rest, rfl, by simpa [hu] using Ne.symm hc, rfl⟩
        · rintro ⟨u, rest, rfl, hu, htext⟩
          cases u with
          | nil =>
              cases htext
              exact absurd rfl hc
          | cons d u =>
              cases htext
              exact ⟨u ++ [q], ⟨u, rest, rfl, fun h => hu (List.mem_cons_of_mem _ h), rfl⟩,
                rfl⟩

end Text

/-- A beginning of a text is the longest one of characters that pass a test exactly when
they pass it and the next one does not. -/
theorem takeWhile_append_eq_iff
    {test : Char → Bool} {w rest : List Char} :
    (w ++ rest).takeWhile test = w
      ↔
    (∀ c ∈ w, test c = true) ∧ rest.head?.any test = false := by
  have hnil : rest.takeWhile test = [] ↔ rest.head?.any test = false := by
    cases rest with
    | nil =>
        simp
    | cons c rest =>
        by_cases hc : test c = true <;> simp [hc]
  constructor
  · intro h
    have hall : ∀ c ∈ w, test c = true := by
      rw [← h]
      exact List.all_eq_true.1 List.all_takeWhile
    rw [List.takeWhile_append_of_pos hall, List.append_right_eq_self, hnil] at h
    exact ⟨hall, h⟩
  · rintro ⟨hall, hhead⟩
    rw [List.takeWhile_append_of_pos hall, List.append_right_eq_self, hnil]
    exact hhead

namespace Pattern

theorem take_runLength
    (s : CharSet)
    (text : List Char) :
    text.take (runLength s text) = text.takeWhile s.contains :=
  (List.prefix_iff_eq_take.1 (List.takeWhile_prefix s.contains)).symm

theorem drop_runLength
    (s : CharSet)
    (text : List Char) :
    text.drop (runLength s text) = text.dropWhile s.contains := by
  have hsplit : text.takeWhile s.contains ++ text.dropWhile s.contains = text :=
    List.takeWhile_append_dropWhile
  conv_lhs =>
    rw [← hsplit]
  apply List.drop_left'
  rw [runLength, hsplit]

namespace CharSet

/-- No character belongs to both sets, of which one holds nothing but ASCII characters. -/
def apart (s t : CharSet) : Bool :=
  (s.isAscii || t.isAscii) &&
    (List.range 128).all fun n => !(covers n s.ranges && covers n t.ranges)

theorem not_contains_of_apart
    {s t : CharSet} {c : Char}
    (h : s.apart t = true)
    (hs : s.contains c = true) :
    ¬ t.contains c = true := by
  intro ht
  rw [apart, Bool.and_eq_true, Bool.or_eq_true, List.all_eq_true] at h
  have hlt : c.toNat < 128 := h.1.elim (lt_of_isAscii · hs) (lt_of_isAscii · ht)
  have hnot := h.2 c.toNat (List.mem_range.2 hlt)
  rw [show covers c.toNat s.ranges = true from hs,
    show covers c.toNat t.ranges = true from ht] at hnot
  cases hnot

end CharSet

namespace Plain

variable {p q : Plain} {s : CharSet} {before : Option Char} {c : Char}
  {n : Nat} {text input v w rest : List Char}

theorem accepts_of_mem_takes
    (h : n ∈ p.takes before text) :
    p.Accepts before (text.take n) (text.drop n) := by
  rw [← length_mem_takes_iff, List.take_append_drop, List.length_take,
    Nat.min_eq_left (le_length_of_mem_takes h)]
  exact h

theorem pos_of_mem_takes
    (hnullable : p.nullable = false)
    (h : n ∈ p.takes before text) :
    0 < n := by
  rw [Nat.pos_iff_ne_zero]
  rintro rfl
  have hempty := accepts_of_mem_takes h
  rw [List.take_zero] at hempty
  rw [nullable_of_accepts hempty] at hnullable
  cases hnullable

/-- In front of a character that it cannot start with a pattern takes nothing. -/
theorem eq_zero_of_starts
    (hstarts : ∀ t ∈ p.starts, ¬ t.contains c = true)
    (h : n ∈ p.takes before (c :: rest)) :
    n = 0 := by
  cases n with
  | zero =>
      rfl
  | succ n =>
      obtain ⟨t, ht, hc⟩ := exists_start_of_accepts (accepts_of_mem_takes h)
      exact absurd hc (hstarts t ht)

theorem takes_eq_nil_of_starts
    (hnullable : p.nullable = false)
    (hstarts : ∀ t ∈ p.starts, ¬ t.contains c = true) :
    p.takes before (c :: rest) = [] := by
  rw [List.eq_nil_iff_forall_not_mem]
  intro n hn
  have hpos := pos_of_mem_takes hnullable hn
  rw [eq_zero_of_starts hstarts hn] at hpos
  cases hpos

/-- All characters of an accepted text are taken from sets of the pattern. -/
theorem exists_set_of_accepts
    (h : p.Accepts before w rest) :
    ∀ c ∈ w, ∃ s ∈ p.sets, s.contains c = true := by
  induction p generalizing before w rest with
  | empty =>
      cases h
      simp
  | one s =>
      obtain ⟨d, rfl, hd⟩ := h
      simpa [sets] using hd
  | many s greedy =>
      intro c hc
      exact ⟨s, List.mem_singleton.2 rfl, h c hc⟩
  | look l =>
      obtain ⟨rfl, _⟩ := h
      simp
  | seq p q ihp ihq =>
      obtain ⟨u, v, rfl, hu, hv⟩ := h
      intro c hc
      rcases List.mem_append.1 hc with hc | hc
      · obtain ⟨s, hs, hcontains⟩ := ihp hu c hc
        exact ⟨s, List.mem_append_left _ hs, hcontains⟩
      · obtain ⟨s, hs, hcontains⟩ := ihq hv c hc
        exact ⟨s, List.mem_append_right _ hs, hcontains⟩
  | alt p q ihp ihq =>
      intro c hc
      rcases h with h | h
      · obtain ⟨s, hs, hcontains⟩ := ihp h c hc
        exact ⟨s, List.mem_append_left _ hs, hcontains⟩
      · obtain ⟨s, hs, hcontains⟩ := ihq h c hc
        exact ⟨s, List.mem_append_right _ hs, hcontains⟩

theorem chars?_eq_head?
    (hnullable : p.nullable = false)
    (text : List Char) :
    p.chars? text = (p.takes none text).head? := by
  rw [chars?]
  cases hn : (p.takes none text).head? with
  | none =>
      rfl
  | some n =>
      simpa using pos_of_mem_takes hnullable (List.mem_of_head? hn)

/-- The text that the pattern prefers to take from the head of an input, unless it is
empty. -/
def text?
    (p : Plain)
    (input : List Char) :
    Option (List Char) :=
  (p.chars? input).map input.take

theorem text?_eq_some_iff :
    p.text? input = some w ↔ p.chars? input = some w.length ∧ w <+: input := by
  rw [text?, Option.map_eq_some_iff]
  constructor
  · rintro ⟨n, hn, rfl⟩
    rw [List.length_take, Nat.min_eq_left (chars?_le_length hn)]
    exact ⟨hn, List.take_prefix n input⟩
  · rintro ⟨hn, hw⟩
    exact ⟨w.length, hn, (List.prefix_iff_eq_take.1 hw).symm⟩

theorem text?_eq_none_iff :
    p.text? input = none ↔ p.chars? input = none := by
  rw [text?, Option.map_eq_none_iff]

theorem exists_accepts_of_text?
    (h : p.text? input = some w) :
    w ≠ [] ∧ ∃ rest, input = w ++ rest ∧ p.Accepts none w rest := by
  obtain ⟨hn, hprefix⟩ := text?_eq_some_iff.1 h
  obtain ⟨v, rest, rfl, hlen, hne, hv⟩ := exists_accepts_of_chars? hn
  obtain ⟨more, hmore⟩ := hprefix
  obtain ⟨rfl, rfl⟩ := List.append_inj hmore hlen.symm
  exact ⟨hne, _, rfl, hv⟩

theorem text?_nil
    (hnullable : p.nullable = false) :
    p.text? [] = none := by
  rw [text?_eq_none_iff, chars?_eq_head? hnullable, List.head?_eq_none_iff,
    List.eq_nil_iff_forall_not_mem]
  intro n hn
  have hpos := pos_of_mem_takes hnullable hn
  have hle := le_length_of_mem_takes hn
  rw [List.length_nil] at hle
  omega

theorem text?_ne_none_of_accepts
    (hnullable : p.nullable = false)
    (h : p.Accepts none w rest) :
    p.text? (w ++ rest) ≠ none := by
  rw [ne_eq, text?_eq_none_iff]
  exact chars?_ne_none_of_accepts hnullable h

/-- The pattern accepts one beginning of a text at most. -/
def Sole (p : Plain) : Prop :=
  ∀ v w rest more,
    v ++ rest = w ++ more →
    p.Accepts none v rest →
    p.Accepts none w more →
    v = w

theorem Sole.text?_eq_some_iff
    (hsole : p.Sole)
    (hnullable : p.nullable = false) :
    p.text? input = some w ↔ ∃ rest, input = w ++ rest ∧ p.Accepts none w rest := by
  constructor
  · intro h
    exact (exists_accepts_of_text? h).2
  · rintro ⟨rest, rfl, hw⟩
    obtain ⟨v, hv⟩ := Option.ne_none_iff_exists'.1 (text?_ne_none_of_accepts hnullable hw)
    obtain ⟨_, more, hsplit, hv'⟩ := exists_accepts_of_text? hv
    rw [hv, hsole v w more rest hsplit.symm hv' hw]

theorem text?_one
    (s : CharSet)
    (c : Char) (rest : List Char) :
    (one s).text? (c :: rest) = if s.contains c then some [c] else none := by
  rw [text?, chars?_one]
  split <;> rfl

/-- What another pattern takes is left to it where the first one takes nothing. -/
theorem text?_alt
    (hnullable : p.nullable = false)
    (input : List Char) :
    (alt p q).text? input = (p.text? input).or (q.text? input) := by
  have hchars : (alt p q).chars? input = (p.chars? input).or (q.chars? input) := by
    rw [chars?_eq_head? hnullable, chars?, chars?, takes, List.head?_append]
    cases htakes : (p.takes none input).head? with
    | none =>
        rfl
    | some n =>
        have hpos := pos_of_mem_takes hnullable (List.mem_of_head? htakes)
        simp [hpos]
  rw [text?, hchars, text?, text?]
  cases p.chars? input <;> rfl

/-- A run behind another part is as long as it can be. -/
theorem text?_seq_many
    (hnullable : p.nullable = false)
    (s : CharSet)
    (input : List Char) :
    (seq p (many s true)).text? input
      =
    (p.text? input).map fun w => w ++ (input.drop w.length).takeWhile s.contains := by
  have hseq : (seq p (many s true)).nullable = false := by
    rw [nullable, hnullable, Bool.false_and]
  rw [text?, text?, chars?_eq_head? hseq, chars?_eq_head? hnullable, head?_takes_seq_many]
  cases hn : (p.takes none input).head? with
  | none =>
      rfl
  | some n =>
      have hle := le_length_of_mem_takes (List.mem_of_head? hn)
      simp only [Option.map_some, List.take_add, take_runLength, List.length_take,
        Nat.min_eq_left hle]

/-! ## Lazy runs -/

theorem takes_one_seq
    (s : CharSet) (q : Plain)
    (before : Option Char)
    (c : Char) (rest : List Char) :
    (seq (one s) q).takes before (c :: rest)
      =
    if s.contains c then (q.takes (some c) rest).map (1 + ·) else [] := by
  by_cases hc : s.contains c = true <;> simp [takes, hc]

/-- A lazy run tries the nearest place first, then goes on by a character. -/
theorem takes_lazy_cons
    {s : CharSet}
    (hc : s.contains c = true)
    (q : Plain)
    (before : Option Char)
    (rest : List Char) :
    (seq (many s false) q).takes before (c :: rest)
      =
    q.takes before (c :: rest) ++
      ((seq (many s false) q).takes (some c) rest).map (1 + ·) := by
  have hnext : ∀ n, (fun m => n.succ + m) = (fun m => 1 + m) ∘ (fun m => n + m) := by
    intro n
    funext m
    simp only [Function.comp_apply]
    omega
  simp only [takes, runLength_cons_of_contains rest hc]
  rw [List.range_succ_eq_map, List.flatMap_cons, List.flatMap_map, List.map_flatMap]
  congr 1
  · simp
  · congr 1
    funext n
    rw [hnext, List.map_map]
    rfl

/-! ## Parts that ask nothing -/

/-- A pattern that asks nothing does not see what stands before it. -/
theorem takes_of_looks_eq_nil
    (h : p.looks = [])
    (before before' : Option Char)
    (text : List Char) :
    p.takes before text = p.takes before' text := by
  induction p generalizing before before' text with
  | empty =>
      rfl
  | one s =>
      cases text <;> rfl
  | many s greedy =>
      cases greedy <;> rfl
  | look l =>
      cases h
  | seq p q ihp ihq =>
      obtain ⟨hp, hq⟩ := List.append_eq_nil_iff.1 h
      rw [takes, takes, ihp hp before before']
      congr 1
      funext n
      rw [ihq hq]
  | alt p q ihp ihq =>
      obtain ⟨hp, hq⟩ := List.append_eq_nil_iff.1 h
      rw [takes, takes, ihp hp before before', ihq hq before before']

theorem text?_congr
    (h : p.takes none input = q.takes none input) :
    p.text? input = q.text? input := by
  rw [text?, text?, chars?, chars?, h]

theorem takes_seq_assoc
    (p q r : Plain)
    (before : Option Char)
    (text : List Char) :
    (seq (seq p q) r).takes before text = (seq p (seq q r)).takes before text := by
  simp only [takes, List.flatMap_assoc, List.flatMap_map, List.map_flatMap, List.map_map]
  congr 1
  funext n
  congr 1
  funext m
  rw [List.take_add, behind_append, List.drop_drop]
  congr 1
  funext k
  exact Nat.add_assoc n m k

/-- Behind a character a pattern takes what it takes alone. -/
theorem text?_one_seq
    (hlooks : q.looks = [])
    (hnullable : q.nullable = false)
    (s : CharSet)
    (c : Char) (rest : List Char) :
    (seq (one s) q).text? (c :: rest)
      =
    if s.contains c then (q.text? rest).map (c :: ·) else none := by
  rw [text?, chars?_eq_head? rfl, takes_one_seq,
    takes_of_looks_eq_nil hlooks (some c) none]
  split
  · rw [text?, chars?_eq_head? hnullable, List.head?_map, Option.map_map, Option.map_map]
    congr 1
    funext n
    simp [Nat.add_comm 1]
  · rfl

/-- A part that can be missing is missing where it leads nowhere. -/
theorem text?_opt_seq
    (hnullable : q.nullable = false)
    (p : Plain)
    (input : List Char) :
    (seq (opt p true) q).text? input = ((seq p q).text? input).or (q.text? input) := by
  have hseq : (seq p q).nullable = false := by
    rw [nullable, hnullable, Bool.and_false]
  rw [← text?_alt hseq]
  apply text?_congr
  simp [opt, takes]

/-- In front of a part that begins with none of its characters a run is as long as it
can be. -/
theorem text?_many_seq
    (hlooks : q.looks = [])
    (hnullable : q.nullable = false)
    (hapart : ∀ t ∈ q.starts, s.apart t = true)
    (input : List Char) :
    (seq (many s true) q).text? input
      =
    (q.text? (input.dropWhile s.contains)).map (input.takeWhile s.contains ++ ·) := by
  have hearlier : ∀ n ∈ (List.range (runLength s input)).reverse,
      (q.takes (behind none (input.take n)) (input.drop n)).map (n + ·) = [] := by
    intro n hn
    rw [List.mem_reverse, List.mem_range] at hn
    have hle := runLength_le s input
    have hmem : input[n] ∈ input.takeWhile s.contains := by
      rw [← take_runLength]
      exact List.mem_take_iff_getElem.2 ⟨n, by omega, rfl⟩
    have hc := List.all_eq_true.1 List.all_takeWhile _ hmem
    -- The run could have gone on here, so what stands behind it takes nothing.
    rw [List.map_eq_nil_iff, List.drop_eq_getElem_cons (by omega)]
    apply takes_eq_nil_of_starts hnullable
    intro t ht
    exact CharSet.not_contains_of_apart (hapart t ht) hc
  have htakes :
      (seq (many s true) q).takes none input
        =
      (q.takes none (input.dropWhile s.contains)).map (runLength s input + ·) := by
    rw [takes, takes, List.range_succ, List.reverse_append, List.reverse_singleton,
      List.singleton_append, List.flatMap_cons, List.flatMap_eq_nil_iff.2 hearlier,
      List.append_nil, takes_of_looks_eq_nil hlooks _ none, drop_runLength]
  have hseq : (seq (many s true) q).nullable = false := by
    rw [nullable, hnullable, Bool.and_false]
  rw [text?, text?, chars?_eq_head? hseq, chars?_eq_head? hnullable, htakes,
    List.head?_map, Option.map_map, Option.map_map]
  congr 1
  funext n
  simp [List.take_add, take_runLength, drop_runLength]

/-! ## Patterns that prefer longer texts -/

/-- The pattern has one way through, and nothing in it is repeated. -/
def straight : Plain → Bool
  | empty | one _ | look _ => true
  | seq p q => p.straight && q.straight
  | many _ _ | alt _ _ => false

theorem length_takes_of_straight
    (h : p.straight = true)
    (before : Option Char)
    (text : List Char) :
    (p.takes before text).length ≤ 1 := by
  induction p generalizing before text with
  | empty =>
      exact Nat.le_refl 1
  | one s =>
      cases text with
      | nil =>
          exact Nat.zero_le 1
      | cons c rest =>
          rw [takes]
          split <;> simp
  | many s greedy =>
      cases h
  | look l =>
      rw [takes]
      split <;> simp
  | seq p q ihp ihq =>
      rw [straight, Bool.and_eq_true] at h
      rw [takes]
      have hle := ihp h.1 before text
      cases hp : p.takes before text with
      | nil =>
          exact Nat.zero_le 1
      | cons n ns =>
          have hns : ns = [] := by simpa [hp] using hle
          rw [hns, List.flatMap_singleton, List.length_map]
          exact ihq h.2 _ _
  | alt p q _ _ =>
      cases h

/-- It can be read off the pattern that it prefers longer texts: its runs are greedy, its
choices are between a part and nothing, and what stands behind a part begins with no
character of that part, unless the part is straight. -/
def eager : Plain → Bool
  | empty | one _ | look _ => true
  | many _ greedy => greedy
  | seq p q =>
    p.eager && q.eager &&
      (p.straight || p.sets.all fun s => q.starts.all fun t => s.apart t)
  | alt p q => p.eager && !p.nullable && q == empty

/-- The numbers of characters that such a pattern can take descend. -/
theorem takes_descend
    (h : p.eager = true)
    (before : Option Char)
    (text : List Char) :
    (p.takes before text).Pairwise (· > ·) := by
  induction p generalizing before text with
  | empty =>
      exact List.pairwise_singleton _ _
  | one s =>
      cases text with
      | nil =>
          exact List.Pairwise.nil
      | cons c rest =>
          rw [takes]
          split <;> simp
  | many s greedy =>
      rw [eager] at h
      subst h
      rw [takes, List.pairwise_reverse]
      exact List.pairwise_lt_range
  | look l =>
      rw [takes]
      split <;> simp
  | seq p q ihp ihq =>
      rw [eager, Bool.and_eq_true, Bool.and_eq_true, Bool.or_eq_true] at h
      obtain ⟨⟨hp, hq⟩, hparts⟩ := h
      rw [takes, List.pairwise_flatMap]
      constructor
      · intro n _
        rw [List.pairwise_map]
        exact (ihq hq _ _).imp fun hlt => Nat.add_lt_add_left hlt n
      · rcases hparts with hstraight | hapart
        · have hle := length_takes_of_straight hstraight before text
          cases hp : p.takes before text with
          | nil =>
              exact List.Pairwise.nil
          | cons n ns =>
              have hns : ns = [] := by simpa [hp] using hle
              rw [hns]
              exact List.pairwise_singleton _ _
        · refine (ihp hp before text).imp_of_mem ?_
          intro n m hn hm hlt x hx y hy
          obtain ⟨i, _, rfl⟩ := List.mem_map.1 hx
          obtain ⟨j, hj, rfl⟩ := List.mem_map.1 hy
          -- The first part could have gone on at `m`, so the second takes nothing there.
          have hle := le_length_of_mem_takes hn
          have hm' : m < text.length := by omega
          have hj' : j = 0 := by
            rw [List.drop_eq_getElem_cons hm'] at hj
            refine eq_zero_of_starts ?_ hj
            intro t ht
            have hmem : text[m] ∈ text.take n :=
              List.mem_take_iff_getElem.2 ⟨m, by omega, rfl⟩
            obtain ⟨s, hs, hc⟩ := exists_set_of_accepts (accepts_of_mem_takes hn) _ hmem
            exact CharSet.not_contains_of_apart
              (List.all_eq_true.1 (List.all_eq_true.1 hapart s hs) t ht) hc
          omega
  | alt p q ihp ihq =>
      rw [eager, Bool.and_eq_true, Bool.and_eq_true, Bool.not_eq_true', beq_iff_eq] at h
      obtain ⟨⟨hp, hnullable⟩, rfl⟩ := h
      rw [takes, List.pairwise_append]
      refine ⟨ihp hp before text, List.pairwise_singleton _ _, ?_⟩
      intro n hn m hm
      rw [takes, List.mem_singleton] at hm
      rw [hm]
      exact pos_of_mem_takes hnullable hn

/-- A pattern that prefers longer texts takes the longest one that it accepts. -/
theorem length_le_of_eager
    (heager : p.eager = true)
    (h : p.text? (v ++ rest) = some w)
    (hv : p.Accepts none v rest) :
    v.length ≤ w.length := by
  have hhead := (Option.filter_eq_some_iff.1 (text?_eq_some_iff.1 h).1).1
  have hmem := length_mem_takes_iff.2 hv
  have hdescend := takes_descend heager none (v ++ rest)
  obtain ⟨ns, hns⟩ := List.head?_eq_some_iff.1 hhead
  rw [hns] at hmem hdescend
  rcases List.mem_cons.1 hmem with heq | hlater
  · exact Nat.le_of_eq heq
  · exact Nat.le_of_lt ((List.pairwise_cons.1 hdescend).1 _ hlater)

end Plain
end Pattern
end TableLexer
