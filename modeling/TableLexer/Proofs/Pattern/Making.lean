import TableLexer.Proofs.Pattern.Reach

/-!
# How automata are made

Making the states of a part leaves the states before it as they are (`Growing`).  The
states of a part that takes no character lead, without a character, nowhere but to
each other and to the state behind the part (`Passing`).  Both are kept by every way
of putting parts together, and so hold of the states of every pattern.

A way on that lies behind a given question does not count, so that the same law
serves for the states that stand behind it.
-/

namespace TableLexer
namespace Pattern

variable {l : Look}

/-- The state takes no character and does not accept, and all ways on lead into the set,
unless they are behind the question. -/
def State.Stays
    (l : Look)
    (into : Nat → Prop) :
    State → Prop
  | .fork x y => into x ∧ into y
  | .ask k next => k = l ∨ into next
  | .take _ _ | .accept => False

theorem State.Stays.imp
    {s : State} {into into' : Nat → Prop}
    (h : s.Stays l into)
    (himp : ∀ i, into i → into' i) :
    s.Stays l into' := by
  cases s with
  | fork x y =>
      exact ⟨himp x h.1, himp y h.2⟩
  | ask k next =>
      exact Or.imp_right (himp next) h
  | take s next =>
      exact h
  | accept =>
      exact h

namespace Automaton

theorem stays_choice
    {into : Nat → Prop} {part leave : Nat}
    (greedy : Bool)
    (hpart : into part)
    (hleave : into leave) :
    (choice greedy part leave).Stays l into := by
  cases greedy with
  | true =>
      exact ⟨hpart, hleave⟩
  | false =>
      exact ⟨hleave, hpart⟩

/-- States added to others leave those as they are. -/
structure Grows (states made : Array State) : Prop where
  size_le : states.size ≤ made.size
  getD_eq : ∀ i < states.size, made.getD i .accept = states.getD i .accept

namespace Grows

theorem refl
    (states : Array State) :
    Grows states states :=
  ⟨Nat.le_refl _, fun _ _ => rfl⟩

theorem trans
    {states made last : Array State}
    (h : Grows states made)
    (h' : Grows made last) :
    Grows states last := by
  refine ⟨Nat.le_trans h.size_le h'.size_le, ?_⟩
  intro i hi
  rw [h'.getD_eq i (Nat.lt_of_lt_of_le hi h.size_le), h.getD_eq i hi]

theorem push
    (states : Array State) (s : State) :
    Grows states (states.push s) := by
  refine ⟨by simp, ?_⟩
  intro i hi
  simp [Array.getD_eq_getD_getElem?, Array.getElem?_push, Nat.ne_of_lt hi]

theorem setIfInBounds
    {states made : Array State} {k : Nat}
    (h : Grows states made)
    (hk : states.size ≤ k)
    (s : State) :
    Grows states (made.setIfInBounds k s) := by
  refine ⟨by simpa using h.size_le, ?_⟩
  intro i hi
  have hne : k ≠ i := by omega
  rw [← h.getD_eq i hi]
  simp [Array.getD_eq_getD_getElem?, hne]

end Grows

/-- Making the part leaves the states before it as they are. -/
def Growing (part : Part) : Prop :=
  ∀ next states, Grows states (part next states).2

namespace Growing

variable {part : Part}

theorem ofText
    (cs : List Char) :
    Growing (ofText cs) := by
  intro next states
  unfold Automaton.ofText
  induction cs.reverse generalizing next states with
  | nil =>
      exact .refl states
  | cons c cs ih =>
      exact (Grows.push states _).trans (ih _ _)

theorem times
    (h : Growing part)
    (n : Nat) :
    Growing (times part n) := by
  induction n with
  | zero =>
      intro next states
      exact .refl states
  | succ n ih =>
      intro next states
      exact (h next states).trans (ih _ _)

theorem upTo
    (h : Growing part)
    (greedy : Bool)
    (leave n : Nat) :
    Growing (upTo part greedy leave n) := by
  induction n with
  | zero =>
      intro next states
      exact .refl states
  | succ n ih =>
      intro next states
      exact ((h next states).trans (.push _ _)).trans (ih _ _)

theorem loop
    (h : Growing part)
    (greedy : Bool)
    (next : Nat)
    (states : Array State) :
    Grows states (loop part greedy next states).2.2 :=
  ((Grows.push states .accept).trans (h _ _)).setIfInBounds (Nat.le_refl _) _

theorem plus
    (h : Growing part)
    (greedy : Bool) :
    Growing (plus part greedy) :=
  h.loop greedy

theorem star
    (h : Growing part)
    (takesSome greedy : Bool) :
    Growing (star part takesSome greedy) := by
  intro next states
  cases takesSome with
  | true =>
      exact h.loop greedy next states
  | false =>
      exact (h.loop greedy next states).trans (.push _ _)

theorem ofPart
    (p : Pattern) :
    Growing (ofPart p) := by
  induction p with
  | empty =>
      intro next states
      exact .refl states
  | text cs =>
      exact .ofText cs
  | one s =>
      intro next states
      exact .push states _
  | look l =>
      intro next states
      exact .push states _
  | group i p ih =>
      exact ih
  | seq p q ihp ihq =>
      intro next states
      exact (ihq next states).trans (ihp _ _)
  | alt p q ihp ihq =>
      intro next states
      exact ((ihp next states).trans (ihq next _)).trans (.push _ _)
  | rounds p bounds greedy ih =>
      intro next states
      rw [Automaton.ofPart]
      split
      · exact ih.star p.takesSome greedy next states
      · exact (ih.plus greedy next states).trans (ih.times _ _ _)
      · exact (ih.upTo greedy next _ next states).trans (ih.times _ _ _)

end Growing

theorem getD_push_size
    (states : Array State) (s : State) :
    (states.push s).getD states.size .accept = s := by
  simp [Array.getD_eq_getD_getElem?]

/-- The number names a state that was made behind the others. -/
def New (states made : Array State) (i : Nat) : Prop :=
  states.size ≤ i ∧ i < made.size

/-- What was made leads to the given states without a character: the first state and all
ways on from new states are among them or new, unless they are behind the question. -/
structure Passes
    (l : Look)
    (states : Array State)
    (out : Nat → Prop)
    (made : Nat × Array State) :
    Prop where
  grows : Grows states made.2
  start : out made.1 ∨ New states made.2 made.1
  stays : ∀ i, New states made.2 i →
    (made.2.getD i .accept).Stays l fun j => out j ∨ New states made.2 j

namespace Passes

variable {states : Array State} {out out' : Nat → Prop} {made made' : Nat × Array State}

theorem refl
    {next : Nat}
    (h : out next) :
    Passes l states out (next, states) := by
  refine ⟨.refl states, Or.inl h, ?_⟩
  rintro i ⟨hlow, hhigh⟩
  exact absurd hhigh (Nat.not_lt.2 hlow)

theorem imp
    (h : Passes l states out made)
    (himp : ∀ i, out i → out' i) :
    Passes l states out' made := by
  refine ⟨h.grows, h.start.imp_left (himp _), ?_⟩
  intro i hi
  exact (h.stays i hi).imp fun j => Or.imp_left (himp j)

/-- What is made next may lead to what was made before. -/
theorem trans
    (h : Passes l states out made)
    (h' : Passes l made.2 (fun j => out j ∨ New states made.2 j) made') :
    Passes l states out made' := by
  have hold : ∀ j, New states made.2 j → New states made'.2 j := by
    rintro j ⟨hlow, hhigh⟩
    exact ⟨hlow, Nat.lt_of_lt_of_le hhigh h'.grows.size_le⟩
  have hnew : ∀ j, New made.2 made'.2 j → New states made'.2 j := by
    rintro j ⟨hlow, hhigh⟩
    exact ⟨Nat.le_trans h.grows.size_le hlow, hhigh⟩
  have hinto : ∀ j, (out j ∨ New states made.2 j) ∨ New made.2 made'.2 j →
      out j ∨ New states made'.2 j := by
    rintro j ((hj | hj) | hj)
    · exact Or.inl hj
    · exact Or.inr (hold j hj)
    · exact Or.inr (hnew j hj)
  refine ⟨h.grows.trans h'.grows, hinto _ h'.start, ?_⟩
  rintro i ⟨hlow, hhigh⟩
  by_cases hi : i < made.2.size
  · rw [h'.grows.getD_eq i hi]
    exact (h.stays i ⟨hlow, hi⟩).imp fun j hj => hinto j (Or.inl hj)
  · exact (h'.stays i ⟨Nat.not_lt.1 hi, hhigh⟩).imp hinto

theorem add
    {s : State}
    (h : s.Stays l out) :
    Passes l states out (add s states) := by
  refine ⟨.push states s, Or.inr ⟨Nat.le_refl _, by simp [Automaton.add]⟩, ?_⟩
  rintro i ⟨hlow, hhigh⟩
  have hi : i = states.size := by
    simp only [Automaton.add, Array.size_push] at hhigh
    omega
  subst hi
  simp only [Automaton.add, getD_push_size]
  exact h.imp fun j => Or.inl

end Passes

/-- The part leads to the state behind it without a character. -/
def Passing (l : Look) (part : Part) : Prop :=
  ∀ next states, Passes l states (· = next) (part next states)

namespace Passing

variable {part : Part} {next : Nat} {states : Array State}

theorem times
    (h : Passing l part)
    (n : Nat) :
    Passing l (times part n) := by
  induction n with
  | zero =>
      intro next states
      exact .refl rfl
  | succ n ih =>
      intro next states
      have hfirst := h next states
      refine hfirst.trans ((ih _ _).imp ?_)
      rintro i rfl
      exact hfirst.start

theorem upTo
    {out : Nat → Prop} {leave : Nat}
    (h : Passing l part)
    (greedy : Bool)
    (n : Nat)
    (hleave : out leave)
    (hnext : out next) :
    Passes l states out (upTo part greedy leave n next states) := by
  induction n generalizing next states out with
  | zero =>
      exact .refl hnext
  | succ n ih =>
      have hround : Passes l states out (part next states) := by
        refine (h next states).imp ?_
        rintro i rfl
        exact hnext
      have hfork := hround.trans (.add (stays_choice greedy hround.start (Or.inl hleave)))
      exact hfork.trans (ih (Or.inl hleave) hfork.start)

theorem loop
    (h : Passing l part)
    (greedy : Bool)
    (next : Nat) (states : Array State) :
    let (first, back, made) := loop part greedy next states
    Passes l states (· = next) (first, made) ∧ New states made back := by
  have hround := h states.size (states.push .accept)
  have hsize := hround.grows.size_le
  rw [Array.size_push] at hsize
  have hback : New states (part states.size (states.push .accept)).2 states.size :=
    ⟨Nat.le_refl _, hsize⟩
  have hfirst : New states (part states.size (states.push .accept)).2
      (part states.size (states.push .accept)).1 := by
    rcases hround.start with heq | ⟨hlow, hhigh⟩
    · rw [heq]
      exact hback
    · rw [Array.size_push] at hlow
      exact ⟨by omega, hhigh⟩
  simp only [Automaton.loop]
  generalize part states.size (states.push .accept) = made at *
  have hsame : ∀ j,
      New states (made.2.setIfInBounds states.size (choice greedy made.1 next)) j
        ↔ New states made.2 j := by
    intro j
    simp [New]
  refine ⟨⟨?_, Or.inr ((hsame _).2 hfirst), ?_⟩, (hsame _).2 hback⟩
  · exact ((Grows.push states .accept).trans hround.grows).setIfInBounds (Nat.le_refl _) _
  · intro i hi
    obtain ⟨hlow, hhigh⟩ := (hsame i).1 hi
    by_cases hi : i = states.size
    · subst hi
      simp only [Array.getD_eq_getD_getElem?, Array.getElem?_setIfInBounds, if_pos hhigh,
        if_true, Option.getD_some]
      exact stays_choice greedy (Or.inr ((hsame _).2 hfirst)) (Or.inl rfl)
    · have hget :
          (made.2.setIfInBounds states.size (choice greedy made.1 next)).getD i .accept
            = made.2.getD i .accept := by
        simp [Array.getD_eq_getD_getElem?, Ne.symm hi]
      rw [hget]
      refine (hround.stays i ⟨?_, hhigh⟩).imp ?_
      · rw [Array.size_push]
        omega
      · rintro j (rfl | ⟨hj, hj'⟩)
        · exact Or.inr ((hsame _).2 hback)
        · rw [Array.size_push] at hj
          exact Or.inr ((hsame j).2 ⟨by omega, hj'⟩)

theorem plus
    (h : Passing l part)
    (greedy : Bool) :
    Passing l (plus part greedy) := by
  intro next states
  exact (h.loop greedy next states).1

theorem star
    (h : Passing l part)
    (takesSome greedy : Bool) :
    Passing l (star part takesSome greedy) := by
  intro next states
  obtain ⟨hloop, hback⟩ := h.loop greedy next states
  cases takesSome with
  | true =>
      exact ⟨hloop.grows, Or.inr hback, hloop.stays⟩
  | false =>
      exact hloop.trans (.add (stays_choice greedy hloop.start (Or.inl rfl)))

/-- The states of a pattern that takes nothing take nothing. -/
theorem ofPart
    {p : Pattern}
    (hp : p.takesNothing = true) :
    Passing l (ofPart p) := by
  induction p with
  | empty =>
      intro next states
      exact .refl rfl
  | text cs =>
      intro next states
      cases cs with
      | nil =>
          exact .refl rfl
      | cons c cs =>
          cases hp
  | one s =>
      cases hp
  | look k =>
      intro next states
      exact .add (Or.inr rfl)
  | group i p ih =>
      exact ih hp
  | seq p q ihp ihq =>
      rw [takesNothing, Bool.and_eq_true] at hp
      intro next states
      have hsecond := ihq hp.2 next states
      refine hsecond.trans ((ihp hp.1 _ _).imp ?_)
      rintro i rfl
      exact hsecond.start
  | alt p q ihp ihq =>
      rw [takesNothing, Bool.and_eq_true] at hp
      intro next states
      have hfirst := ihp hp.1 next states
      have hboth := hfirst.trans ((ihq hp.2 next _).imp fun i => Or.inl)
      have hstart := hfirst.start.imp_right fun hnew =>
        (⟨hnew.1, Nat.lt_of_lt_of_le hnew.2 (Growing.ofPart q next _).size_le⟩ :
          New states (Automaton.ofPart q next (Automaton.ofPart p next states).2).2 _)
      exact hboth.trans (.add ⟨hstart, hboth.start⟩)
  | rounds p bounds greedy ih =>
      have hpart := ih hp
      intro next states
      rw [Automaton.ofPart]
      split
      · exact hpart.star p.takesSome greedy next states
      · have hplus := hpart.plus greedy next states
        refine hplus.trans ((hpart.times _ _ _).imp ?_)
        rintro i rfl
        exact hplus.start
      · next most _ =>
          have hmore :
              Passes l states (· = next)
                (Automaton.upTo (Automaton.ofPart p) greedy next (most - bounds.least) next
                  states) :=
            hpart.upTo greedy _ rfl rfl
          refine hmore.trans ((hpart.times _ _ _).imp ?_)
          rintro i rfl
          exact hmore.start

end Passing

end Automaton
end Pattern
end TableLexer
