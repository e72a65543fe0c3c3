import Mathlib.Data.List.Basic
import TableLexer.Pattern.Reader

/-!
# Closing parentheses

A text that is a pattern by itself can be put into a group: what closes the group is
the parenthesis behind the text, and nothing in it.  To see this, the reading of the
text is compared with the reading of the text and that parenthesis.  As long as both
go on they stand at the same place (`Shut`): no reader of an item, of a class or of a
repetition can tell the end of a text from a closing parenthesis, except by failing.
A comment may take the parenthesis, and then both readings have come to an end.
-/

namespace TableLexer
namespace Pattern

theorem isBlank_paren :
    Text.isBlank ')' = false := by
  decide

/-- The second text is the first one, perhaps with a closing parenthesis behind it. -/
inductive Shut : List Char → List Char → Prop
  | gone :
      Shut [] []
  | here :
      Shut [] [')']
  | cons
      (c : Char) {rest rest' : List Char} :
      Shut rest rest' →
      Shut (c :: rest) (c :: rest')

/-- Where both readings succeed, their values are the same as far as is asked, and they
go on at the same place. -/
def Agree
    {α : Type}
    (same : α → α → Prop)
    (r r' : Option (α × List Char)) :
    Prop :=
  ∀ a rest a' rest',
    r = some (a, rest) →
    r' = some (a', rest') →
    same a a' ∧ Shut rest rest'

/-- Any two values are the same as far as nothing is asked. -/
abbrev anyValue {α : Type} (_ _ : α) : Prop :=
  True

namespace Agree

variable {α β : Type} {same : α → α → Prop} {r r' : Option (α × List Char)}

theorem none_left :
    Agree same none r' := by
  intro a rest a' rest' h
  cases h

theorem none_right :
    Agree same r none := by
  intro a rest a' rest' _ h
  cases h

theorem some
    {a a' : α} {rest rest' : List Char}
    (ha : same a a')
    (h : Shut rest rest') :
    Agree same (some (a, rest)) (some (a', rest')) := by
  intro b more b' more' heq heq'
  cases heq
  cases heq'
  exact ⟨ha, h⟩

/-- To compare what is made of two readings, it is enough to look at two that succeed and
go on at the same place, if what is made of a failure is a failure. -/
@[elab_as_elim]
theorem elim
    {motive : Option (α × List Char) → Option (α × List Char) → Prop}
    (h : Agree same r r')
    (hleft : ∀ r', motive none r')
    (hright : ∀ r, motive r none)
    (hboth : ∀ a a' rest rest', same a a' → Shut rest rest' →
      motive (Option.some (a, rest)) (Option.some (a', rest'))) :
    motive r r' := by
  cases hr : r with
  | none =>
      exact hleft r'
  | some x =>
      cases hr' : r' with
      | none =>
          exact hright _
      | some x' =>
          obtain ⟨ha, hrest⟩ := h _ _ _ _ hr hr'
          exact hboth _ _ _ _ ha hrest

theorem bind
    {into : β → β → Prop}
    {f f' : α × List Char → Option (β × List Char)}
    (h : Agree same r r')
    (hf : ∀ a a' rest rest', same a a' → Shut rest rest' →
      Agree into (f (a, rest)) (f' (a', rest'))) :
    Agree into (r.bind f) (r'.bind f') := by
  intro b more b' more' heq heq'
  obtain ⟨⟨a, rest⟩, hr, hfa⟩ := Option.bind_eq_some_iff.1 heq
  obtain ⟨⟨a', rest'⟩, hr', hfa'⟩ := Option.bind_eq_some_iff.1 heq'
  obtain ⟨ha, hrest⟩ := h _ _ _ _ hr hr'
  exact hf _ _ _ _ ha hrest _ _ _ _ hfa hfa'

/-- What is made of the values does not change the place. -/
theorem map
    {f f' : α × List Char → β}
    (h : Agree same r r') :
    Agree anyValue (r.map fun x => (f x, x.2)) (r'.map fun x => (f' x, x.2)) := by
  intro b more b' more' heq heq'
  obtain ⟨x, hx, hfx⟩ := Option.map_eq_some_iff.1 heq
  obtain ⟨x', hx', hfx'⟩ := Option.map_eq_some_iff.1 heq'
  cases hfx
  cases hfx'
  exact ⟨trivial, (h _ _ _ _ hx hx').2⟩

/-- Readings that go on at two given places, if at all. -/
theorem of_rest
    {rest rest' : List Char}
    (h : Shut rest rest')
    (hr : ∀ a more, r = Option.some (a, more) → rest = more)
    (hr' : ∀ a more, r' = Option.some (a, more) → rest' = more) :
    Agree anyValue r r' := by
  intro a more a' more' heq heq'
  obtain rfl := hr _ _ heq
  obtain rfl := hr' _ _ heq'
  exact ⟨trivial, h⟩

/-- A value that may be missing, with the text behind it. -/
theorem value
    {v v' : Option α}
    {f f' : α → β}
    {rest rest' : List Char}
    (h : Shut rest rest') :
    Agree anyValue (v.map fun a => (f a, rest)) (v'.map fun a => (f' a, rest')) := by
  refine of_rest h ?_ ?_
  · intro a more heq
    obtain ⟨_, _, heq⟩ := Option.map_eq_some_iff.1 heq
    exact congrArg Prod.snd heq
  · intro a more heq
    obtain ⟨_, _, heq⟩ := Option.map_eq_some_iff.1 heq
    exact congrArg Prod.snd heq

end Agree

namespace Shut

variable {flags : Flags} {cs cs' rest rest' : List Char}

theorem append_paren
    (cs : List Char) :
    Shut cs (cs ++ [')']) := by
  induction cs with
  | nil =>
      exact .here
  | cons c cs ih =>
      exact .cons c ih

/-- Where the first text goes on, the second one goes on with the same character. -/
theorem exists_cons
    {c : Char}
    (h : Shut (c :: cs) cs') :
    ∃ more, cs' = c :: more ∧ Shut cs more := by
  cases h with
  | cons _ h =>
      exact ⟨_, rfl, h⟩

theorem drop
    (h : Shut cs cs')
    (n : Nat) :
    Shut (cs.drop n) (cs'.drop n) := by
  induction h generalizing n with
  | gone =>
      rw [List.drop_nil]
      exact .gone
  | here =>
      cases n with
      | zero =>
          exact .here
      | succ n =>
          rw [List.drop_nil, List.drop_succ_cons, List.drop_nil]
          exact .gone
  | cons c h ih =>
      cases n with
      | zero =>
          exact .cons c h
      | succ n =>
          exact ih n

theorem head?_eq_some_iff
    {c : Char}
    (h : Shut cs cs')
    (hc : c ≠ ')') :
    cs.head? = some c ↔ cs'.head? = some c := by
  cases h with
  | gone =>
      exact Iff.rfl
  | here =>
      simp [Ne.symm hc]
  | cons d h =>
      exact Iff.rfl

theorem take_two_eq_iff
    {c d : Char}
    (h : Shut cs cs')
    (hd : d ≠ ')') :
    cs.take 2 = [c, d] ↔ cs'.take 2 = [c, d] := by
  cases h with
  | gone =>
      exact Iff.rfl
  | here =>
      simp
  | cons x h =>
      cases h with
      | gone =>
          exact Iff.rfl
      | here =>
          simp [Ne.symm hd]
      | cons y h =>
          exact Iff.rfl

theorem tail
    (h : Shut cs cs') :
    Shut cs.tail cs'.tail := by
  rw [← List.drop_one, ← List.drop_one]
  exact h.drop 1

theorem dropIgnored
    (h : Shut cs cs')
    (inComment : Bool) :
    Shut (Flags.dropIgnored inComment cs) (Flags.dropIgnored inComment cs') := by
  induction h generalizing inComment with
  | gone =>
      exact .gone
  | here =>
      cases inComment with
      | true =>
          exact .gone
      | false =>
          exact .here
  | cons c h ih =>
      rw [Flags.dropIgnored, Flags.dropIgnored]
      split
      · exact ih _
      · split
        · exact ih _
        · split
          · exact ih _
          · exact .cons c h

/-- A text stays shut behind what stands for nothing. -/
theorem skip
    (h : Shut cs cs') :
    Shut (flags.skip cs) (flags.skip cs') := by
  unfold Flags.skip
  split
  · exact h.dropIgnored false
  · exact h

/-- A run of characters that the parenthesis does not belong to ends before it. -/
theorem spanOnto
    {test : Char → Bool}
    (h : Shut cs cs')
    (htest : test ')' = false)
    (found : List Char)
    (inComment : Bool) :
    (flags.spanOnto test found inComment cs).1 =
      (flags.spanOnto test found inComment cs').1 ∧
    Shut (flags.spanOnto test found inComment cs).2
      (flags.spanOnto test found inComment cs').2 := by
  induction h generalizing found inComment with
  | gone =>
      exact ⟨rfl, .gone⟩
  | here =>
      cases inComment with
      | true =>
          exact ⟨rfl, .gone⟩
      | false =>
          simp only [Flags.spanOnto, htest, isBlank_paren]
          simp [Shut.here]
  | cons c h ih =>
      rw [Flags.spanOnto, Flags.spanOnto]
      split
      · exact ih _ _
      · split
        · exact ih _ _
        · split
          · exact ih _ _
          · split
            · exact ih _ _
            · exact ⟨rfl, .cons c h⟩

theorem span
    {test : Char → Bool}
    (h : Shut cs cs')
    (htest : test ')' = false) :
    (flags.span test cs).1 = (flags.span test cs').1 ∧
    Shut (flags.span test cs).2 (flags.span test cs').2 :=
  h.spanOnto htest [] false

theorem takeWhile_dropWhile
    {test : Char → Bool}
    (h : Shut cs cs')
    (htest : test ')' = false) :
    cs.takeWhile test = cs'.takeWhile test ∧
    Shut (cs.dropWhile test) (cs'.dropWhile test) := by
  induction h with
  | gone =>
      exact ⟨rfl, .gone⟩
  | here =>
      simp [htest, Shut.here]
  | cons c h ih =>
      cases hc : test c with
      | true =>
          simpa [hc] using ih
      | false =>
          simpa [hc] using Shut.cons c h

/-- A run of characters that the parenthesis does belong to reaches both ends, or ends
before them. -/
theorem dropWhile_of_paren
    {test : Char → Bool}
    (h : Shut cs cs')
    (htest : test ')' = true) :
    (cs.dropWhile test = [] ∧ cs'.dropWhile test = []) ∨
    (cs.takeWhile test = cs'.takeWhile test ∧
      Shut (cs.dropWhile test) (cs'.dropWhile test)) := by
  induction h with
  | gone =>
      exact Or.inl ⟨rfl, rfl⟩
  | here =>
      exact Or.inl ⟨rfl, by simp [htest]⟩
  | cons c h ih =>
      cases hc : test c with
      | true =>
          simpa [hc] using ih
      | false =>
          right
          simpa [hc] using Shut.cons c h

theorem readSide
    (h : Shut cs cs')
    (n n' : Nat)
    (found found' : List Char) :
    Agree anyValue (Escape.readSide flags n found cs)
      (Escape.readSide flags n' found' cs') := by
  induction n generalizing n' found found' cs cs' with
  | zero =>
      exact .none_left
  | succ n ih =>
      cases n' with
      | zero =>
          exact .none_right
      | succ n' =>
          cases h with
          | gone | here =>
              exact .none_left
          | cons c h =>
              rw [Escape.readSide, Escape.readSide]
              split
              · exact .value h
              · split
                · exact ih h.skip n' _ _
                · exact .none_left

theorem readEdge
    (h : Shut cs cs') :
    Agree anyValue (Escape.readEdge flags cs) (Escape.readEdge flags cs') := by
  cases h with
  | gone =>
      exact .some trivial .gone
  | here =>
      exact .some trivial .here
  | @cons c more more' h =>
      by_cases hc : c = '\x7b'
      · subst hc
        simp only [Escape.readEdge]
        have hskip := @skip flags _ _ h
        generalize flags.skip more = head at hskip
        generalize flags.skip more' = head' at hskip
        cases hskip with
        | gone | here =>
            exact .none_left
        | cons d hskip =>
            simp only
            split
            · exact (Shut.cons d hskip).readSide _ _ _ _
            · exact .some trivial (.cons _ h)
      · have hplain : ∀ more, Escape.readEdge flags (c :: more) =
            some (.edge, c :: more) := by
          intro more
          unfold Escape.readEdge
          split
          · next heq =>
              cases heq
              exact absurd rfl hc
          · rfl
        rw [hplain, hplain]
        exact .some trivial (.cons c h)

theorem readHex
    (h : Shut cs cs')
    (n value value' : Nat) :
    Agree anyValue (Escape.readHex flags n value cs)
      (Escape.readHex flags n value' cs') := by
  induction n generalizing value value' cs cs' with
  | zero =>
      exact .some trivial h
  | succ n ih =>
      cases h with
      | gone | here =>
          exact .none_left
      | cons c h =>
          rw [Escape.readHex, Escape.readHex]
          cases Text.hexValue? c with
          | none =>
              exact .none_left
          | some d =>
              exact ih h.skip _ _

theorem readHexBraced
    (h : Shut cs cs')
    (n n' : Nat)
    (value value' : Option Nat) :
    Agree anyValue (Escape.readHexBraced flags n value cs)
      (Escape.readHexBraced flags n' value' cs') := by
  induction n generalizing n' value value' cs cs' with
  | zero =>
      exact .none_left
  | succ n ih =>
      cases n' with
      | zero =>
          exact .none_right
      | succ n' =>
          cases h with
          | gone | here =>
              exact .none_left
          | cons c h =>
              rw [Escape.readHexBraced, Escape.readHexBraced]
              split
              · exact .value h.skip
              · cases Text.hexValue? c with
                | none =>
                    exact .none_left
                | some d =>
                    exact ih h.skip n' _ _

/-- Without a brace so many digits follow. -/
theorem readCode_digits
    {digits : Nat} {single : Bool}
    (hbrace : (flags.skip cs).head? ≠ some '\x7b') :
    Escape.readCode flags digits single cs
      =
    (Escape.readHex flags digits 0 (flags.skip cs)).bind fun x =>
      if single && !flags.unicode && 128 ≤ x.1 then none
      else (Escape.charOf? x.1).map fun c => (.char c, x.2) := by
  unfold Escape.readCode
  split
  · next heq =>
      rw [heq] at hbrace
      exact absurd rfl hbrace
  · cases Escape.readHex flags digits 0 (flags.skip cs) <;> rfl

theorem readCode_braces
    {digits : Nat} {single : Bool}
    (hbrace : (flags.skip cs).head? = some '\x7b') :
    Escape.readCode flags digits single cs
      =
    (Escape.readHexBraced flags ((flags.skip cs).tail.length + 1) none
        (flags.skip (flags.skip cs).tail)).bind fun x =>
      (Escape.charOf? x.1).map fun c => (.char c, x.2) := by
  unfold Escape.readCode
  split
  · next rest heq =>
      rw [heq, List.tail_cons]
      cases Escape.readHexBraced flags (rest.length + 1) none (flags.skip rest) <;> rfl
  · next hne =>
      obtain ⟨rest, heq⟩ := List.head?_eq_some_iff.1 hbrace
      exact (hne rest heq).elim

theorem readCode
    (h : Shut cs cs')
    (digits : Nat) (single : Bool) :
    Agree anyValue (Escape.readCode flags digits single cs)
      (Escape.readCode flags digits single cs') := by
  have hskip := @skip flags _ _ h
  have hhead := @head?_eq_some_iff _ _ '\x7b' hskip (by decide)
  by_cases hbrace : (flags.skip cs).head? = some '\x7b'
  · rw [readCode_braces hbrace, readCode_braces (hhead.1 hbrace)]
    refine (@readHexBraced flags _ _ hskip.tail.skip _ _ none none).bind ?_
    intro n n' rest rest' _ hrest
    exact .value hrest
  · rw [readCode_digits hbrace, readCode_digits (mt hhead.2 hbrace)]
    refine (hskip.readHex digits 0 0).bind ?_
    intro n n' rest rest' _ hrest
    simp only
    split
    · exact .none_left
    · split
      · exact .none_right
      · exact .value hrest

/-- The brace that ends a name is the same one in both texts. -/
theorem readBraced
    (h : Shut cs cs')
    (n n' : Nat)
    (found found' : List Char) :
    Agree anyValue (Escape.readBraced flags n found cs)
      (Escape.readBraced flags n' found' cs') := by
  induction n generalizing n' found found' cs cs' with
  | zero =>
      exact .none_left
  | succ n ih =>
      cases n' with
      | zero =>
          exact .none_right
      | succ n' =>
          cases h with
          | gone | here =>
              exact .none_left
          | cons c h =>
              rw [Escape.readBraced, Escape.readBraced]
              split
              · exact .some trivial h
              · exact ih h.skip n' _ _

theorem readPropertyName
    (h : Shut cs cs') :
    Agree anyValue (Escape.readPropertyName flags cs)
      (Escape.readPropertyName flags cs') := by
  unfold Escape.readPropertyName
  have hskip := @skip flags _ _ h
  generalize flags.skip cs = head at hskip
  generalize flags.skip cs' = head' at hskip
  cases hskip with
  | gone | here =>
      exact .none_left
  | cons c hskip =>
      by_cases hbrace : c = '\x7b'
      · subst hbrace
        exact (@readBraced flags _ _ hskip.skip _ _ _ _).map
      · by_cases hescape : c = '\\'
        · subst hescape
          exact .none_left
        · simp only
          exact .some trivial hskip

/-- Whatever classes the names have, the reading of one goes on behind it. -/
theorem readProperty
    (h : Shut cs cs')
    (negated : Bool) :
    Agree anyValue (Escape.readProperty flags negated cs)
      (Escape.readProperty flags negated cs') := by
  unfold Escape.readProperty
  refine Agree.elim (@readPropertyName flags _ _ h) ?_ ?_ ?_
  · intro r'
    exact .none_left
  · intro r
    exact .none_right
  · intro name name' rest rest' _ hrest
    exact .value hrest

theorem readEscape
    (h : Shut cs cs') :
    Agree anyValue (Escape.read flags cs) (Escape.read flags cs') := by
  cases h with
  | gone | here =>
      exact .none_left
  | cons c h =>
      unfold Escape.read
      simp only
      split
      · exact .some trivial h
      · cases Escape.control? c with
        | some d =>
            exact .some trivial h
        | none =>
            cases Escape.set? flags c with
            | some s =>
                exact .some trivial h
            | none =>
                simp only
                split
                · exact h.readCode 2 true
                · exact h.readCode 4 false
                · exact h.readCode 8 false
                · exact h.readProperty false
                · exact h.readProperty true
                · exact .some trivial h
                · exact .some trivial h
                · exact .some trivial h
                · exact .some trivial h
                · exact .some trivial h
                · exact (@readEdge flags _ _ h).map
                · exact .none_left

theorem readClassItem
    (h : Shut cs cs') :
    Agree anyValue (Pattern.readClassItem flags cs) (Pattern.readClassItem flags cs') := by
  cases h with
  | gone | here =>
      exact .none_left
  | cons c h =>
      by_cases hc : c = '\\'
      · subst hc
        simp only [Pattern.readClassItem]
        refine Agree.elim (@readEscape flags _ _ h) ?_ ?_ ?_
        · intro r'
          exact .none_left
        · intro r
          exact .none_right
        · intro e e' rest rest' _ hrest
          refine .of_rest hrest ?_ ?_
          · intro i more hi
            cases e <;> simp at hi <;> tauto
          · intro i more hi
            cases e' <;> simp at hi <;> tauto
      · unfold Pattern.readClassItem
        simp only
        exact .value h

theorem behindDash?_eq_some_iff
    {c : Char}
    (h : Shut cs cs')
    (hc : c ≠ ')') :
    behindDash? flags cs = some c ↔ behindDash? flags cs' = some c := by
  unfold behindDash?
  split
  · have hblank := (h.takeWhile_dropWhile isBlank_paren).2
    generalize cs.dropWhile Text.isBlank = head at hblank
    generalize cs'.dropWhile Text.isBlank = head' at hblank
    cases hblank with
    | gone =>
        exact Iff.rfl
    | here =>
        exact Shut.here.head?_eq_some_iff hc
    | cons d hblank =>
        by_cases hd : d = '#'
        · subst hd
          exact (hblank.takeWhile_dropWhile isBlank_paren).2.head?_eq_some_iff hc
        · simp only [List.cons.injEq, hd, false_and, imp_self, implies_true]
          exact (Shut.cons d hblank).head?_eq_some_iff hc
  · exact h.head?_eq_some_iff hc

theorem readClassRange
    (h : Shut cs cs') :
    Agree anyValue (Pattern.readClassRange flags cs)
      (Pattern.readClassRange flags cs') := by
  unfold Pattern.readClassRange
  refine Agree.elim (@readClassItem flags _ _ h) ?_ ?_ ?_
  · intro r'
    exact .none_left
  · intro r
    exact .none_right
  · intro item item' rest rest' _ hrest
    simp only
    have hskip := @skip flags _ _ hrest
    generalize flags.skip rest = head at hskip
    generalize flags.skip rest' = head' at hskip
    cases hskip with
    | gone =>
        exact .some trivial .gone
    | here =>
        exact .some trivial .here
    | @cons c more more' hskip =>
        by_cases hc : c = '-'
        · subst hc
          simp only [(hskip.behindDash?_eq_some_iff (c := ']') (by decide)),
            (hskip.behindDash?_eq_some_iff (c := '-') (by decide))]
          split
          · exact .some trivial (.cons _ hskip)
          · refine Agree.elim (@readClassItem flags _ _ (@skip flags _ _ hskip)) ?_ ?_ ?_
            · intro r'
              cases item <;> exact .none_left
            · intro r
              cases item' <;> exact .none_right
            · intro second second' rest rest' _ hrest
              refine .of_rest hrest ?_ ?_
              · intro s more hs
                cases item <;> cases second <;> simp at hs
                exact hs.2.2
              · intro s more hs
                cases item' <;> cases second' <;> simp at hs
                exact hs.2.2
        · simp only [List.cons.injEq, hc, false_and, imp_self, implies_true]
          exact .some trivial (.cons c hskip)

theorem setOp?_eq
    (h : Shut cs cs') :
    setOp? cs = setOp? cs' := by
  cases h with
  | gone =>
      rfl
  | here =>
      rfl
  | cons c h =>
      cases h with
      | gone =>
          rfl
      | here =>
          unfold setOp?
          split <;> simp_all
      | cons d h =>
          unfold setOp?
          split <;> simp_all

/-- The text behind a sign that negates a class. -/
def behindCaret
    (flags : Flags)
    (cs : List Char) :
    List Char :=
  if (flags.skip cs).head? = some '^' then flags.skip (flags.skip cs).tail
  else flags.skip cs

/-- The text behind the items that may come first only in a class. -/
def behindFirst
    (found : List Char × List Char) :
    List Char :=
  if found.1 = [] ∧ found.2.head? = some ']' then found.2.tail else found.2

theorem readClassStart_rest
    (flags : Flags)
    (cs : List Char) :
    (Pattern.readClassStart flags cs).2.2
      =
    behindFirst (flags.span (· == '-') (behindCaret flags cs)) := by
  unfold Pattern.readClassStart
  split
  next negated rest hcaret =>
  have hrest : rest = behindCaret flags cs := by
    unfold behindCaret
    split at hcaret
    · next heq =>
        cases hcaret
        rw [heq]
        rfl
    · next hne =>
        cases hcaret
        rw [if_neg]
        intro hhead
        obtain ⟨more, heq⟩ := List.head?_eq_some_iff.1 hhead
        exact hne more heq
  rw [← hrest]
  unfold behindFirst
  split
  · next heq =>
      rw [heq]
      rfl
  · next hne heq =>
      rw [heq, if_neg]
      rintro ⟨hdashes, hhead⟩
      obtain ⟨more, hmore⟩ := List.head?_eq_some_iff.1 hhead
      exact hne more hdashes hmore

theorem readClassStart
    (h : Shut cs cs') :
    Shut (Pattern.readClassStart flags cs).2.2 (Pattern.readClassStart flags cs').2.2 := by
  have hskip := @skip flags _ _ h
  have hcaret : Shut (behindCaret flags cs) (behindCaret flags cs') := by
    unfold behindCaret
    simp only [@head?_eq_some_iff _ _ '^' hskip (by decide)]
    split
    · exact hskip.tail.skip
    · exact hskip
  obtain ⟨hdashes, hrest⟩ := @span flags _ _ (· == '-') hcaret (by decide)
  rw [readClassStart_rest, readClassStart_rest]
  unfold behindFirst
  rw [hdashes]
  simp only [@head?_eq_some_iff _ _ ']' hrest (by decide)]
  split
  · exact hrest.tail
  · exact hrest

/-- The class whose name stands at the head of the text, in front of `:]`. -/
def namedClass?
    (flags : Flags) (negated : Bool)
    (cs : List Char) :
    Option (Option CharSet × List Char) :=
  if (cs.dropWhile (· != ':')).take 2 = [':', ']'] then
    (CharSet.named? (String.ofList (cs.takeWhile (· != ':')))).map fun s =>
      (if negated then flags.negate? s else some s, (cs.dropWhile (· != ':')).drop 2)
  else
    none

theorem readNamed_eq
    (flags : Flags)
    (cs : List Char) :
    Pattern.readNamed flags cs
      =
    if cs.head? = some ':' then
      if cs.tail.head? = some '^' then namedClass? flags true cs.tail.tail
      else namedClass? flags false cs.tail
    else
      none := by
  unfold Pattern.readNamed
  split
  · next cs =>
      rw [List.head?_cons, if_pos rfl, List.tail_cons]
      split
      next negated rest hcaret =>
      have hrest :
          (if cs.head? = some '^' then namedClass? flags true cs.tail
            else namedClass? flags false cs)
            =
          namedClass? flags negated rest := by
        split at hcaret
        · cases hcaret
          rfl
        · next hne =>
            cases hcaret
            rw [if_neg]
            intro hhead
            obtain ⟨more, heq⟩ := List.head?_eq_some_iff.1 hhead
            exact hne more heq
      rw [hrest]
      unfold namedClass?
      split
      · next hname hend =>
          rw [hname, hend]
          rfl
      · next hne =>
          split
          · next hend =>
              cases hname : CharSet.named? (String.ofList (rest.takeWhile (· != ':'))) with
              | none =>
                  rfl
              | some s =>
                  have hsplit := List.take_append_drop 2 (rest.dropWhile (· != ':'))
                  rw [hend] at hsplit
                  exact (hne s _ hname hsplit.symm).elim
          · rfl
  · next hne =>
      rw [if_neg]
      intro hhead
      obtain ⟨more, heq⟩ := List.head?_eq_some_iff.1 hhead
      exact hne more heq

/-- Both texts begin with a class given by its name, the same one, or neither does. -/
theorem readNamed
    (h : Shut cs cs') :
    (Pattern.readNamed flags cs = none ∧ Pattern.readNamed flags cs' = none) ∨
    ∃ s rest rest',
      Pattern.readNamed flags cs = some (s, rest) ∧
      Pattern.readNamed flags cs' = some (s, rest') ∧
      Shut rest rest' := by
  have hnamed : ∀ {negated : Bool} {cs cs' : List Char}, Shut cs cs' →
      (namedClass? flags negated cs = none ∧ namedClass? flags negated cs' = none) ∨
      ∃ s rest rest',
        namedClass? flags negated cs = some (s, rest) ∧
        namedClass? flags negated cs' = some (s, rest') ∧
        Shut rest rest' := by
    intro negated cs cs' h
    unfold namedClass?
    rcases @dropWhile_of_paren _ _ (· != ':') h (by decide) with
      ⟨hend, hend'⟩ | ⟨hsame, hdrop⟩
    · rw [hend, hend', if_neg (by simp), if_neg (by simp)]
      exact Or.inl ⟨rfl, rfl⟩
    · simp only [hsame, @take_two_eq_iff _ _ ':' ']' hdrop (by decide)]
      split
      · cases CharSet.named? (String.ofList (cs'.takeWhile (· != ':'))) with
        | none =>
            exact Or.inl ⟨rfl, rfl⟩
        | some s =>
            exact Or.inr ⟨_, _, _, rfl, rfl, hdrop.drop 2⟩
      · exact Or.inl ⟨rfl, rfl⟩
  rw [readNamed_eq, readNamed_eq]
  simp only [@head?_eq_some_iff _ _ ':' h (by decide),
    @head?_eq_some_iff _ _ '^' h.tail (by decide)]
  split
  · split
    · exact hnamed h.tail.tail
    · exact hnamed h.tail
  · exact Or.inl ⟨rfl, rfl⟩

/-- Two readings of a class go on at the same place, whatever bounds them. -/
theorem readClassRest
    (h : Shut cs cs')
    (n n' level level' : Nat)
    (negated negated' : Bool)
    (part part' : ClassPart) :
    Agree anyValue (Pattern.readClassRest n level flags negated part cs)
      (Pattern.readClassRest n' level' flags negated' part' cs') := by
  induction n generalizing n' level level' negated negated' part part' cs cs' with
  | zero =>
      exact .none_left
  | succ n ih =>
      cases n' with
      | zero =>
          exact .none_right
      | succ n' =>
          rw [Pattern.readClassRest, Pattern.readClassRest]
          have hskip := @skip flags _ _ h
          generalize flags.skip cs = head at hskip
          generalize flags.skip cs' = head' at hskip
          cases hskip with
          | gone | here =>
              exact .none_left
          | @cons c rest rest' hskip =>
              by_cases hclose : c = ']'
              · subst hclose
                refine .of_rest hskip ?_ ?_
                · intro s more heq
                  simp only at heq
                  split at heq <;> cases heq
                  rfl
                · intro s more heq
                  simp only at heq
                  split at heq <;> cases heq
                  rfl
              · by_cases hopen : c = '['
                · subst hopen
                  simp only
                  rcases @readNamed flags _ _ hskip with
                    ⟨hnamed, hnamed'⟩ | ⟨s, more, more', hnamed, hnamed', hmore⟩
                  · rw [hnamed, hnamed']
                    cases level with
                    | zero =>
                        exact .none_left
                    | succ level =>
                        cases level' with
                        | zero =>
                            exact .none_right
                        | succ level' =>
                            have hstart := @readClassStart flags _ _ hskip
                            generalize Pattern.readClassStart flags rest = start at hstart
                            generalize Pattern.readClassStart flags rest' =
                              start' at hstart
                            obtain ⟨inverted, items, inner⟩ := start
                            obtain ⟨inverted', items', inner'⟩ := start'
                            simp only
                            refine Agree.elim
                              (ih hstart n' level level' inverted inverted'
                                (.ofChars items) (.ofChars items'))
                              ?_ ?_ ?_
                            · intro r'
                              exact .none_left
                            · intro r
                              exact .none_right
                            · intro _ _ rest rest' _ hrest
                              exact ih hrest _ _ _ _ _ _ _
                  · rw [hnamed, hnamed']
                    cases s with
                    | none =>
                        exact .none_left
                    | some s =>
                        exact ih hmore _ _ _ _ _ _ _
                · simp only [List.cons.injEq, hclose, hopen, false_and, imp_self,
                    implies_true]
                  have hchars := Shut.cons c hskip
                  rw [← hchars.setOp?_eq]
                  cases setOp? (c :: rest) with
                  | some op =>
                      exact ih (hchars.drop 2) _ _ _ _ _ _ _
                  | none =>
                      refine Agree.elim (@readClassRange flags _ _ hchars) ?_ ?_ ?_
                      · intro r'
                        exact .none_left
                      · intro r
                        exact .none_right
                      · intro _ _ rest rest' _ hrest
                        exact ih hrest _ _ _ _ _ _ _

theorem readClass
    (h : Shut cs cs')
    (n n' level level' : Nat) :
    Agree anyValue (Pattern.readClass n level flags cs)
      (Pattern.readClass n' level' flags cs') :=
  (@readClassStart flags _ _ h).readClassRest _ _ _ _ _ _ _ _

end Shut
end Pattern
end TableLexer
