import TableLexer.Proofs.Pattern.Making

/-!
# Patterns held by a question

A pattern that begins with a question matches nowhere but where the answer is yes.
For a pattern that is walked this is read off its places (`takes_eq_nil`).  For an
automaton it is a set of states, closed under every way on, that holds the first
state and no state that takes a character or accepts (`Automaton.Stops`); following
such states finds nothing.

So a pattern that begins with the start of the text has no match further behind, and
looking for it at the start alone is no loss (`Matcher.search_eq_searchFrom`).
-/

namespace TableLexer
namespace Pattern

variable {l : Look} {before : Option Char} {text : List Char}

/-- A pattern of one character takes it, so it is no question. -/
theorem not_question_of_oneOf?
    {p : Pattern} {s : CharSet}
    (h : p.oneOf? = some s) :
    p.takesNothing = false ∧ p.beginsWith l = false := by
  cases p with
  | text cs =>
      cases cs with
      | nil =>
          cases h
      | cons c cs =>
          exact ⟨rfl, rfl⟩
  | one s =>
      exact ⟨rfl, rfl⟩
  | empty | look k | rounds p b g | group i p | seq p q | alt p q =>
      cases h

/-- Plain rounds are rounds of one character, or a part that may be left out. -/
theorem plain?_rounds
    {p : Pattern} {bounds : Bounds} {greedy : Bool} {q : Plain}
    (h : (rounds p bounds greedy).plain? = some q) :
    (∃ s, p.oneOf? = some s) ∨
      (bounds = ⟨0, some 1⟩ ∧ ∃ p', p.plain? = some p' ∧ q = p'.opt greedy) := by
  rw [plain?] at h
  split at h
  · next s hs =>
      exact Or.inl ⟨s, hs⟩
  · split at h
    · next hbounds =>
        obtain ⟨p', hp', rfl⟩ := Option.map_eq_some_iff.1 h
        exact Or.inr ⟨hbounds, p', hp', rfl⟩
    · cases h

theorem eq_zero_of_mem_takes
    {p : Pattern} {q : Plain} {n : Nat}
    (hplain : p.plain? = some q)
    (hnothing : p.takesNothing = true)
    (hn : n ∈ q.takes before text) :
    n = 0 := by
  induction p generalizing q before text n with
  | empty =>
      cases hplain
      simpa [Plain.takes] using hn
  | text cs =>
      cases cs with
      | nil =>
          cases hplain
          simpa [Plain.ofText, Plain.takes] using hn
      | cons c cs =>
          cases hnothing
  | one s =>
      cases hnothing
  | look k =>
      cases hplain
      simp only [Plain.takes] at hn
      split at hn
      · simpa using hn
      · cases hn
  | rounds p bounds greedy ih =>
      rw [takesNothing] at hnothing
      rcases plain?_rounds hplain with ⟨s, hs⟩ | ⟨_, p', hp', rfl⟩
      · rw [(not_question_of_oneOf? (l := .textStart) hs).1] at hnothing
        cases hnothing
      · have hopt : n ∈ p'.takes before text ∨ n = 0 := by
          cases greedy <;> simp [Plain.opt, Plain.takes] at hn <;> tauto
        rcases hopt with hn | hn
        · exact ih hp' hnothing hn
        · exact hn
  | group i p ih =>
      exact ih hplain hnothing hn
  | seq p q ihp ihq =>
      rw [takesNothing, Bool.and_eq_true] at hnothing
      rw [plain?] at hplain
      split at hplain
      · next p' q' hp' hq' =>
          cases hplain
          simp only [Plain.takes, List.mem_flatMap, List.mem_map] at hn
          obtain ⟨m, hm, k, hk, rfl⟩ := hn
          have hm₀ := ihp hp' hnothing.1 hm
          have hk₀ := ihq hq' hnothing.2 hk
          omega
      · cases hplain
  | alt p q ihp ihq =>
      rw [takesNothing, Bool.and_eq_true] at hnothing
      rw [plain?] at hplain
      split at hplain
      · next p' q' hp' hq' =>
          cases hplain
          rcases List.mem_append.1 hn with hn | hn
          · exact ihp hp' hnothing.1 hn
          · exact ihq hq' hnothing.2 hn
      · cases hplain

/-- A plain pattern that begins with a question takes nothing, not even the empty text,
where the answer is no. -/
theorem takes_eq_nil
    {p : Pattern} {q : Plain}
    (hplain : p.plain? = some q)
    (hbegins : p.beginsWith l = true)
    (hl : l.holds before text.head? = false) :
    q.takes before text = [] := by
  induction p generalizing q with
  | empty =>
      cases hbegins
  | text cs =>
      cases hbegins
  | one s =>
      cases hbegins
  | look k =>
      cases hplain
      rw [beginsWith, beq_iff_eq] at hbegins
      rw [Plain.takes, hbegins, hl]
      rfl
  | rounds p bounds greedy ih =>
      rw [beginsWith, Bool.and_eq_true, decide_eq_true_eq] at hbegins
      rcases plain?_rounds hplain with ⟨s, hs⟩ | ⟨hbounds, _⟩
      · rw [(not_question_of_oneOf? hs).2] at hbegins
        cases hbegins.2
      · rw [hbounds] at hbegins
        exact absurd hbegins.1 (Nat.lt_irrefl 0)
  | group i p ih =>
      exact ih hplain hbegins
  | seq p q ihp ihq =>
      rw [beginsWith, Bool.or_eq_true, Bool.and_eq_true] at hbegins
      rw [plain?] at hplain
      split at hplain
      · next p' q' hp' hq' =>
          cases hplain
          rw [Plain.takes, List.flatMap_eq_nil_iff]
          intro n hn
          rcases hbegins with hp | ⟨hp, hq⟩
          · rw [ihp hp' hp] at hn
            cases hn
          · -- The first part takes nothing, so the second is asked at the same place.
            have hn₀ := eq_zero_of_mem_takes hp' hp hn
            subst hn₀
            rw [List.take_zero, behind_nil, List.drop_zero, ihq hq' hq]
            rfl
      · cases hplain
  | alt p q ihp ihq =>
      rw [beginsWith, Bool.and_eq_true] at hbegins
      rw [plain?] at hplain
      split at hplain
      · next p' q' hp' hq' =>
          cases hplain
          rw [Plain.takes, ihp hp' hbegins.1, ihq hq' hbegins.2]
          rfl
      · cases hplain

namespace Automaton

/-- What was made begins with states that lead nowhere without a character but among
themselves, unless it is behind the question. -/
def Stops
    (l : Look)
    (states : Array State)
    (made : Nat × Array State) :
    Prop :=
  ∃ held : Nat → Prop,
    held made.1 ∧
    (∀ i, held i → New states made.2 i) ∧
    ∀ i, held i → (made.2.getD i .accept).Stays l held

namespace Stops

variable {states states' : Array State} {made made' : Nat × Array State}

theorem size_le
    (h : Stops l states made) :
    states.size ≤ made.2.size := by
  obtain ⟨_, hstart, hnew, _⟩ := h
  have hfirst := hnew _ hstart
  exact Nat.le_trans hfirst.1 (Nat.le_of_lt hfirst.2)

theorem mono
    (h : Stops l states' made)
    (hle : states.size ≤ states'.size) :
    Stops l states made := by
  obtain ⟨held, hstart, hnew, hstays⟩ := h
  refine ⟨held, hstart, ?_, hstays⟩
  intro i hi
  exact ⟨Nat.le_trans hle (hnew i hi).1, (hnew i hi).2⟩

theorem grow
    {last : Array State}
    (h : Stops l states made)
    (hlast : Grows made.2 last) :
    Stops l states (made.1, last) := by
  obtain ⟨held, hstart, hnew, hstays⟩ := h
  refine ⟨held, hstart, ?_, ?_⟩
  · intro i hi
    exact ⟨(hnew i hi).1, Nat.lt_of_lt_of_le (hnew i hi).2 hlast.size_le⟩
  · intro i hi
    rw [hlast.getD_eq i (hnew i hi).2]
    exact hstays i hi

/-- A part that takes nothing may stand before one that stops. -/
theorem seq
    (h : Stops l states made)
    (h' : Passes l made.2 (· = made.1) made') :
    Stops l states made' := by
  obtain ⟨held, hstart, hnew, hstays⟩ := h.grow h'.grows
  have hinto : ∀ i, i = made.1 ∨ New made.2 made'.2 i → held i ∨ New made.2 made'.2 i := by
    rintro i (rfl | hi)
    · exact Or.inl hstart
    · exact Or.inr hi
  refine ⟨fun i => held i ∨ New made.2 made'.2 i, hinto _ h'.start, ?_, ?_⟩
  · rintro i (hi | hi)
    · exact hnew i hi
    · exact ⟨Nat.le_trans h.size_le hi.1, hi.2⟩
  · rintro i (hi | hi)
    · exact (hstays i hi).imp fun j => Or.inl
    · exact (h'.stays i hi).imp hinto

theorem alt
    (h : Stops l states made)
    (h' : Stops l made.2 made')
    (hgrows : Grows made.2 made'.2) :
    Stops l states (add (.fork made.1 made'.1) made'.2) := by
  have hpush := Grows.push made'.2 (.fork made.1 made'.1)
  obtain ⟨held, hstart, hnew, hstays⟩ := h.grow (hgrows.trans hpush)
  obtain ⟨held', hstart', hnew', hstays'⟩ := h'.grow hpush
  refine ⟨fun i => i = made'.2.size ∨ held i ∨ held' i, Or.inl rfl, ?_, ?_⟩
  · rintro i (rfl | hi | hi)
    · exact ⟨Nat.le_trans h.size_le hgrows.size_le, by simp [add]⟩
    · exact hnew i hi
    · exact ⟨Nat.le_trans h.size_le (hnew' i hi).1, (hnew' i hi).2⟩
  · rintro i (rfl | hi | hi)
    · simp only [add, getD_push_size]
      exact ⟨Or.inr (Or.inl hstart), Or.inr (Or.inr hstart')⟩
    · exact (hstays i hi).imp fun j hj => Or.inr (Or.inl hj)
    · exact (hstays' i hi).imp fun j hj => Or.inr (Or.inr hj)

variable {part : Part}

/-- The round that is made last stands first. -/
theorem times
    (h : ∀ next states, Stops l states (part next states))
    (hgrowing : Growing part)
    {n : Nat}
    (hn : 0 < n)
    (next : Nat) (states : Array State) :
    Stops l states (times part n next states) := by
  induction n generalizing next states with
  | zero =>
      exact absurd hn (Nat.lt_irrefl 0)
  | succ n ih =>
      rw [Automaton.times]
      cases n with
      | zero =>
          exact h next states
      | succ n =>
          exact (ih (Nat.succ_pos n) _ _).mono (hgrowing next states).size_le

theorem plus
    (h : ∀ next states, Stops l states (part next states))
    (greedy : Bool)
    (next : Nat) (states : Array State) :
    Stops l states (plus part greedy next states) := by
  obtain ⟨held, hstart, hnew, hstays⟩ := h states.size (states.push .accept)
  simp only [Automaton.plus, Automaton.loop]
  refine ⟨held, hstart, ?_, ?_⟩
  · intro i hi
    obtain ⟨hlow, hhigh⟩ := hnew i hi
    rw [Array.size_push] at hlow
    exact ⟨by omega, by simpa using hhigh⟩
  · intro i hi
    -- The fork that leads back lies before all that the part has made.
    have hne : states.size ≠ i := by
      have hlow := (hnew i hi).1
      rw [Array.size_push] at hlow
      omega
    have hstay := hstays i hi
    simpa [Array.getD_eq_getD_getElem?, hne] using hstay

/-- The states of a pattern that begins with a question stop at it. -/
theorem ofPart
    {p : Pattern}
    (hp : p.beginsWith l = true)
    (next : Nat) (states : Array State) :
    Stops l states (ofPart p next states) := by
  induction p generalizing next states with
  | empty =>
      cases hp
  | text cs =>
      cases hp
  | one s =>
      cases hp
  | look k =>
      rw [beginsWith, beq_iff_eq] at hp
      refine ⟨(· = states.size), rfl, ?_, ?_⟩
      · rintro i rfl
        exact ⟨Nat.le_refl _, by simp [Automaton.ofPart, add]⟩
      · rintro i rfl
        simp only [Automaton.ofPart, add, getD_push_size]
        exact Or.inl hp
  | group i p ih =>
      exact ih hp next states
  | seq p q ihp ihq =>
      rw [beginsWith, Bool.or_eq_true, Bool.and_eq_true] at hp
      rw [Automaton.ofPart]
      rcases hp with hp | ⟨hnothing, hq⟩
      · exact (ihp hp _ _).mono (Growing.ofPart q next states).size_le
      · exact (ihq hq next states).seq (Passing.ofPart hnothing _ _)
  | alt p q ihp ihq =>
      rw [beginsWith, Bool.and_eq_true] at hp
      rw [Automaton.ofPart]
      exact (ihp hp.1 next states).alt (ihq hp.2 next _) (Growing.ofPart q next _)
  | rounds p bounds greedy ih =>
      rw [beginsWith, Bool.and_eq_true, decide_eq_true_eq] at hp
      have hpart := ih hp.2
      have hgrowing := Growing.ofPart p
      rw [Automaton.ofPart]
      split
      · next hleast _ =>
          rw [hleast] at hp
          exact absurd hp.1 (Nat.lt_irrefl 0)
      · next n _ _ =>
          rcases Nat.eq_zero_or_pos n with rfl | hn
          · exact plus hpart greedy next states
          · exact (times hpart hgrowing hn _ _).mono
              (hgrowing.plus greedy next states).size_le
      · exact (times hpart hgrowing hp.1 _ _).mono
          (hgrowing.upTo greedy next _ next states).size_le

end Stops

/-- From states that stop at a question nothing is found where the answer is no. -/
theorem close_order
    {a : Automaton} {held : Nat → Prop} {after : Option Char}
    (hstays : ∀ i, held i → (a.state i).Stays l held)
    (hl : l.holds before after = false)
    (place n : Nat)
    {stack : List Nat}
    (hstack : ∀ i ∈ stack, held i)
    (found : Found) :
    (a.close before after place n stack found).order = found.order := by
  induction n generalizing stack found with
  | zero =>
      rfl
  | succ n ih =>
      cases stack with
      | nil =>
          rfl
      | cons q stack =>
          have hq := hstays q (hstack q List.mem_cons_self)
          have hrest : ∀ i ∈ stack, held i := by
            intro i hi
            exact hstack i (List.mem_cons_of_mem _ hi)
          rw [close]
          split
          · exact ih hrest found
          · cases hstate : a.state q with
            | take s next =>
                rw [hstate] at hq
                exact hq.elim
            | accept =>
                rw [hstate] at hq
                exact hq.elim
            | fork x y =>
                rw [hstate] at hq
                simp only
                refine ih ?_ _
                intro i hi
                rcases List.mem_cons.1 hi with rfl | hi
                · exact hq.1
                · rcases List.mem_cons.1 hi with rfl | hi
                  · exact hq.2
                  · exact hrest i hi
            | ask k next =>
                rw [hstate] at hq
                simp only
                refine ih ?_ _
                intro i hi
                split at hi
                · next hk =>
                    rcases List.mem_cons.1 hi with rfl | hi
                    · rcases hq with rfl | hnext
                      · rw [hl] at hk
                        cases hk
                      · exact hnext
                    · exact hrest i hi
                · exact hrest i hi

/-- The automaton of a pattern that begins with a question takes nothing, not even the
empty text, where the answer is no. -/
theorem take?_ofPattern
    {p : Pattern}
    (hp : p.beginsWith l = true)
    (hl : l.holds before text.head? = false) :
    (ofPattern p).take? before text = none := by
  obtain ⟨held, hstart, _, hstays⟩ := Stops.ofPart hp 0 #[.accept]
  have hfound :
      ((ofPattern p).find before text.head? 1
          ⟨#[], Array.replicate (ofPattern p).states.size 0⟩ (ofPattern p).start).order
        =
      #[] := by
    refine close_order hstays hl 1 _ ?_ _
    intro i hi
    rw [List.mem_singleton.1 hi]
    exact hstart
  unfold take?
  simp only
  generalize (ofPattern p).find before text.head? 1 _ _ = found at hfound
  cases text with
  | nil =>
      simp [follow, hfound, preferred]
  | cons c rest =>
      simp [follow, hfound]

end Automaton

/-- A pattern that begins with a question does not match where the answer is no. -/
theorem Engine.stop?_ofPattern
    {p : Pattern} {c : Cursor}
    (hp : p.beginsWith l = true)
    (hl : c.satisfies l = false) :
    (Engine.ofPattern p).stop? c = none := by
  have hrun : (Engine.run (.ofPattern p)).stop? c = none := by
    rw [stop?, Automaton.take?_ofPattern hp hl]
    rfl
  unfold Engine.ofPattern
  split
  · next q hplain =>
      split
      · rw [stop?, Plain.stop?, Plain.find_eq_findSome?, takes_eq_nil hplain hp hl]
        rfl
      · exact hrun
  · exact hrun

namespace Matcher

/-- Behind the start of the text a pattern that begins with it is nowhere found. -/
theorem searchFrom_eq_none
    {p : Pattern}
    (hp : p.isAnchored = true)
    (c : Char) (passed : Nat) (rest : List Char) :
    searchFrom (.ofPattern p) (some c) passed rest = none := by
  induction rest generalizing c passed with
  | nil =>
      rw [searchFrom, Engine.stop?_ofPattern hp rfl]
  | cons x rest ih =>
      rw [searchFrom, Engine.stop?_ofPattern hp rfl]
      exact ih x (passed + 1)

/-- What a matcher finds is the leftmost match, also where it looks at the start only. -/
theorem search_eq_searchFrom
    {p : Pattern} {m : Matcher}
    (h : ofPattern? p = some m)
    (text : List Char) :
    m.search text = searchFrom m.engine none 0 text := by
  unfold ofPattern? at h
  split at h
  · cases h
    unfold search
    split
    · next hp =>
        cases hstop : (Engine.ofPattern p).stop? (.start text) with
        | some stop =>
            cases text <;> simp only [Cursor.start] at hstop <;>
              rw [searchFrom, hstop] <;> rfl
        | none =>
            cases text with
            | nil =>
                simp only [Cursor.start] at hstop
                rw [searchFrom, hstop]
                rfl
            | cons x rest =>
                simp only [Cursor.start] at hstop
                rw [searchFrom, hstop]
                exact (searchFrom_eq_none hp x 1 rest).symm
    · rfl
  · cases h

end Matcher

end Pattern
end TableLexer
