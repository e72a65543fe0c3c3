import TableLexer.Proofs.Pattern.Closing

/-!
# Groups of the written form

Reading a group is a derivation: `ReadsGroup` says which steps lead from a text to the
place where its group ends, and leaves out what is read.  The first character of what
is left decides the step, so two readings of texts that differ in a closing parenthesis
behind them take the same steps, and end at the same place (`ReadsGroup.shut`).

A text that is a pattern by itself is read to its end.  Put into a group behind the
start of the text, it is therefore read to the end there too, the parenthesis behind it
closes that group, and nothing stands outside (`isAnchored_of_read?`).
-/

namespace TableLexer
namespace Pattern

namespace Shut

variable {flags : Flags} {cs cs' : List Char}

theorem readFlags
    (h : Shut cs cs')
    (flags : Flags)
    (seen : List Char) (value : Bool) :
    Agree Eq (Pattern.readFlags flags seen value cs)
      (Pattern.readFlags flags seen value cs') := by
  induction h generalizing flags seen value with
  | gone | here =>
      exact .none_left
  | cons c h ih =>
      by_cases hclose : c = ')'
      · subst hclose
        simp only [Pattern.readFlags]
        split
        · exact .none_left
        · exact .some rfl h
      · by_cases hcolon : c = ':'
        · subst hcolon
          simp only [Pattern.readFlags]
          split
          · exact .none_left
          · exact .some rfl h
        · simp only [Pattern.readFlags]
          split
          · exact .none_left
          · split
            · exact ih _ _ _
            · cases flags.set? value c with
              | none =>
                  exact .none_left
              | some f =>
                  exact ih _ _ _

theorem readName
    (h : Shut cs cs') :
    Agree Eq (Pattern.readName cs) (Pattern.readName cs') := by
  have hparen : isNameChar ')' = false := by
    decide +kernel
  obtain ⟨hname, hdrop⟩ := h.takeWhile_dropWhile hparen
  unfold Pattern.readName
  simp only [hname]
  generalize cs.dropWhile isNameChar = head at hdrop
  generalize cs'.dropWhile isNameChar = head' at hdrop
  cases cs'.takeWhile isNameChar with
  | nil =>
      exact .none_left
  | cons first name =>
      cases hdrop with
      | gone | here =>
          exact .none_left
      | cons c hdrop =>
          by_cases hc : c = '>'
          · subst hc
            simp only
            split
            · exact .some rfl hdrop
            · exact .none_left
          · simp only [List.cons.injEq, hc, false_and, imp_self, implies_true]
            exact .none_left

theorem readGroupStart
    (h : Shut cs cs') :
    Agree Eq (Pattern.readGroupStart flags cs) (Pattern.readGroupStart flags cs') := by
  unfold Pattern.readGroupStart
  have hskip := @skip flags _ _ h
  generalize flags.skip cs = head at hskip
  generalize flags.skip cs' = head' at hskip
  cases hskip with
  | gone =>
      exact .some rfl .gone
  | here =>
      exact .some rfl .here
  | cons c hskip =>
      by_cases hc : c = '?'
      · subst hc
        cases hskip with
        | gone =>
            exact Shut.gone.readFlags flags [] true
        | here =>
            exact Shut.here.readFlags flags [] true
        | cons d hskip =>
            by_cases hd : d = '<'
            · subst hd
              exact hskip.readName
            · by_cases hp : d = 'P'
              · subst hp
                cases hskip with
                | gone =>
                    exact (Shut.cons 'P' .gone).readFlags flags [] true
                | here =>
                    exact (Shut.cons 'P' .here).readFlags flags [] true
                | cons e hskip =>
                    by_cases he : e = '<'
                    · subst he
                      exact hskip.readName
                    · simp only [List.cons.injEq, he, hd, false_and, and_false, imp_self,
                        implies_true]
                      exact (Shut.cons 'P' (.cons e hskip)).readFlags flags [] true
              · simp only [List.cons.injEq, hd, hp, false_and, imp_self, implies_true]
                exact (Shut.cons d hskip).readFlags flags [] true
      · simp only [List.cons.injEq, hc, false_and, imp_self, implies_true]
        exact .some rfl (.cons c hskip)

/-- Items that are neither escapes nor classes are one character long. -/
theorem rest_of_readItem
    {n : Nat} {c : Char} {rest more : List Char} {p : ReadPattern}
    (hescape : c ≠ '\\')
    (hclass : c ≠ '[')
    (h : Pattern.readItem n flags (c :: rest) = some (p, more)) :
    rest = more := by
  unfold Pattern.readItem at h
  split at h
  · next heq =>
      cases heq
  · next heq =>
      cases heq
      exact absurd rfl hescape
  · next heq =>
      cases heq
      exact absurd rfl hclass
  · next heq =>
      cases heq
      cases h
      rfl
  · next heq =>
      cases heq
      cases h
      rfl
  · next heq =>
      cases heq
      obtain ⟨_, _, heq⟩ := Option.map_eq_some_iff.1 h
      exact congrArg Prod.snd heq
  · next heq =>
      cases heq
      cases h
      rfl

theorem readItem
    (h : Shut cs cs')
    (n n' : Nat) :
    Agree anyValue (Pattern.readItem n flags cs) (Pattern.readItem n' flags cs') := by
  cases h with
  | gone | here =>
      exact .none_left
  | cons c h =>
      by_cases hescape : c = '\\'
      · subst hescape
        simp only [Pattern.readItem]
        refine Agree.elim (@readEscape flags _ _ h) ?_ ?_ ?_
        · intro r'
          exact .none_left
        · intro r
          exact .none_right
        · intro e e' rest rest' _ hrest
          refine .of_rest hrest ?_ ?_
          · intro p more hp
            cases e <;> simp at hp <;> exact hp.2
          · intro p more hp
            cases e' <;> simp at hp <;> exact hp.2
      · by_cases hclass : c = '['
        · subst hclass
          exact (@readClass flags _ _ h n n' maxDepth maxDepth).map
        · refine .of_rest h ?_ ?_
          · intro p more hp
            exact rest_of_readItem hescape hclass hp
          · intro p more hp
            exact rest_of_readItem hescape hclass hp

theorem readBound
    (h : Shut cs cs') :
    Agree anyValue (Pattern.readBound flags cs) (Pattern.readBound flags cs') := by
  have hblank := (h.takeWhile_dropWhile isBlank_paren).2
  have hdigits := (@span flags _ _ Char.isDigit hblank (by decide)).2
  have hrest := (hdigits.takeWhile_dropWhile isBlank_paren).2
  refine .of_rest (@skip flags _ _ hrest) ?_ ?_
  · intro k more hk
    simp only [Pattern.readBound] at hk
    split at hk <;> cases hk
    rfl
  · intro k more hk
    simp only [Pattern.readBound] at hk
    split at hk <;> cases hk
    rfl

/-- The bounds of a repetition: one number, or a least one and perhaps a largest one. -/
theorem readBounds_inv
    {bounds : Bounds} {rest : List Char}
    (h : Pattern.readBounds flags cs = some (bounds, rest)) :
    ∃ least more,
      Pattern.readBound flags cs = some (least, more) ∧
      (more = '\x7d' :: rest ∨
        ∃ inner,
          more = ',' :: inner ∧
          (flags.skip inner = '\x7d' :: rest ∨
            (flags.skip inner).head? ≠ some '\x7d' ∧
            ∃ most, Pattern.readBound flags (flags.skip inner) =
              some (most, '\x7d' :: rest))) := by
  unfold Pattern.readBounds at h
  split at h
  · cases h
  · next hread =>
      cases h
      exact ⟨_, _, hread, Or.inl rfl⟩
  · next hread =>
      refine ⟨_, _, hread, Or.inr ⟨_, rfl, ?_⟩⟩
      split at h
      · next hskip =>
          cases h
          exact Or.inl hskip
      · next hne =>
          split at h
          · next hmost =>
              split at h
              · cases h
                refine Or.inr ⟨?_, _, hmost⟩
                intro hhead
                obtain ⟨more, heq⟩ := List.head?_eq_some_iff.1 hhead
                exact hne more heq
              · cases h
          · cases h
  · cases h

theorem readBounds
    (h : Shut cs cs') :
    Agree anyValue (Pattern.readBounds flags cs) (Pattern.readBounds flags cs') := by
  intro bounds rest bounds' rest' hread hread'
  refine ⟨trivial, ?_⟩
  obtain ⟨least, more, hleast, hgoes⟩ := readBounds_inv hread
  obtain ⟨least', more', hleast', hgoes'⟩ := readBounds_inv hread'
  have hmore := (@readBound flags _ _ h _ _ _ _ hleast hleast').2
  rcases hgoes with rfl | ⟨inner, rfl, hgoes⟩
  · cases hmore with
    | cons _ hmore =>
        rcases hgoes' with heq | ⟨_, heq, _⟩
        · cases heq
          exact hmore
        · cases heq
  · cases hmore with
    | cons _ hmore =>
        rcases hgoes' with heq | ⟨inner', heq, hgoes'⟩
        · cases heq
        · cases heq
          have hskip := @skip flags _ _ hmore
          have hhead := @head?_eq_some_iff _ _ '\x7d' hskip (by decide)
          rcases hgoes with hend | ⟨hopen, most, hmost⟩
          · rcases hgoes' with hend' | ⟨hopen', _⟩
            · rw [hend, hend'] at hskip
              exact hskip.tail
            · exact absurd (hhead.1 (by rw [hend]; rfl)) hopen'
          · rcases hgoes' with hend' | ⟨_, most', hmost'⟩
            · exact absurd (hhead.2 (by rw [hend']; rfl)) hopen
            · exact (@readBound flags _ _ hskip _ _ _ _ hmost hmost').2.tail

theorem readGreed
    (h : Shut cs cs') :
    Shut (Pattern.readGreed flags cs).2 (Pattern.readGreed flags cs').2 := by
  cases h with
  | gone =>
      exact .gone
  | here =>
      exact .here
  | cons c h =>
      by_cases hc : c = '?'
      · subst hc
        exact h
      · simp only [Pattern.readGreed, List.cons.injEq, hc, false_and, imp_self,
          implies_true]
        exact .cons c h

/-- The signs of repetitions without a number. -/
theorem readRounds_sign
    {c : Char}
    (hc : c ∈ ['*', '+', '?'])
    (flags : Flags) :
    ∃ bounds, ∀ rest,
      Pattern.readRounds flags (c :: rest) =
        some (some (bounds, Pattern.readGreed flags rest)) := by
  simp only [List.mem_cons, List.not_mem_nil, or_false] at hc
  rcases hc with rfl | rfl | rfl
  · exact ⟨⟨0, none⟩, fun _ => rfl⟩
  · exact ⟨⟨1, none⟩, fun _ => rfl⟩
  · exact ⟨⟨0, some 1⟩, fun _ => rfl⟩

theorem readRounds_other
    {c : Char}
    (hc : c ∉ ['*', '+', '?'])
    (hbrace : c ≠ '\x7b')
    (flags : Flags)
    (rest : List Char) :
    Pattern.readRounds flags (c :: rest) = some none := by
  simp only [List.mem_cons, List.not_mem_nil, or_false, not_or] at hc
  unfold Pattern.readRounds
  simp only [List.cons.injEq, hc, hbrace, false_and, imp_self, implies_true]

/-- A repetition stands at the head of both texts or of neither, and ends at the same
place. -/
theorem readRounds
    (h : Shut cs cs') :
    (Pattern.readRounds flags cs = some none ↔ Pattern.readRounds flags cs' = some none) ∧
    ∀ found found',
      Pattern.readRounds flags cs = some (some found) →
      Pattern.readRounds flags cs' = some (some found') →
      Shut found.2.2 found'.2.2 := by
  cases h with
  | gone =>
      refine ⟨Iff.rfl, ?_⟩
      intro found found' hfound
      cases hfound
  | here =>
      refine ⟨Iff.rfl, ?_⟩
      intro found found' hfound
      cases hfound
  | @cons c rest rest' h =>
      by_cases hc : c ∈ ['*', '+', '?']
      · obtain ⟨bounds, hbounds⟩ := readRounds_sign hc flags
        rw [hbounds, hbounds]
        refine ⟨by simp, ?_⟩
        intro found found' hfound hfound'
        cases hfound
        cases hfound'
        exact h.readGreed
      · by_cases hbrace : c = '\x7b'
        · subst hbrace
          refine ⟨by simp [Pattern.readRounds], ?_⟩
          intro found found' hfound hfound'
          obtain ⟨x, hx, heq⟩ := Option.map_eq_some_iff.1 hfound
          obtain ⟨x', hx', heq'⟩ := Option.map_eq_some_iff.1 hfound'
          cases heq
          cases heq'
          have hrest := (@readBounds flags _ _ h _ _ _ _ hx hx').2
          exact hrest.skip.readGreed
        · rw [readRounds_other hc hbrace, readRounds_other hc hbrace]
          refine ⟨Iff.rfl, ?_⟩
          intro found found' hfound
          cases hfound

end Shut

theorem dropIgnored_dropIgnored
    (inComment : Bool)
    (cs : List Char) :
    Flags.dropIgnored false (Flags.dropIgnored inComment cs) =
      Flags.dropIgnored inComment cs := by
  induction cs generalizing inComment with
  | nil =>
      rfl
  | cons c cs ih =>
      rw [Flags.dropIgnored]
      split
      · exact ih _
      · split
        · exact ih _
        · split
          · exact ih _
          · next hcomment hblank =>
              simp [Flags.dropIgnored, hcomment, hblank]

@[simp] theorem skip_skip
    (flags : Flags)
    (cs : List Char) :
    flags.skip (flags.skip cs) = flags.skip cs := by
  unfold Flags.skip
  split
  · exact dropIgnored_dropIgnored false cs
  · rfl

@[simp] theorem skip_nil
    (flags : Flags) :
    flags.skip [] = [] := by
  unfold Flags.skip
  split <;> rfl

/-- The repetitions behind an item end at the same place, if no other one can follow
there.  The first reading may have been given fewer steps. -/
theorem Shut.readRepeats
    {flags : Flags} {n n' : Nat} {p p' q q' : ReadPattern}
    {cs cs' rest rest' : List Char}
    (h : Shut (flags.skip cs) (flags.skip cs'))
    (hn : n ≤ n')
    (hread : Pattern.readRepeats n flags p cs = some (q, rest))
    (hread' : Pattern.readRepeats n' flags p' cs' = some (q', rest'))
    (hend : Pattern.readRounds flags (flags.skip rest) = some none) :
    Shut (flags.skip rest) (flags.skip rest') := by
  induction n generalizing n' p p' cs cs' with
  | zero =>
      cases hread
      cases n' with
      | zero =>
          cases hread'
          exact h
      | succ n' =>
          have hend' := (@Shut.readRounds flags _ _ h).1.1 hend
          simp only [Pattern.readRepeats, hend'] at hread'
          cases hread'
          rw [skip_skip]
          exact h
  | succ n ih =>
      obtain ⟨n', rfl⟩ := Nat.exists_eq_add_of_lt (Nat.lt_of_succ_le hn)
      simp only [Pattern.readRepeats] at hread hread'
      obtain ⟨hnone, hsome⟩ := @Shut.readRounds flags _ _ h
      cases hrounds : Pattern.readRounds flags (flags.skip cs) with
      | none =>
          rw [hrounds] at hread
          cases hread
      | some found =>
          cases found with
          | none =>
              rw [hrounds] at hread
              rw [hnone.1 hrounds] at hread'
              cases hread
              cases hread'
              rw [skip_skip, skip_skip]
              exact h
          | some found =>
              cases hrounds' : Pattern.readRounds flags (flags.skip cs') with
              | none =>
                  rw [hrounds'] at hread'
                  cases hread'
              | some found' =>
                  cases found' with
                  | none =>
                      rw [hnone.2 hrounds'] at hrounds
                      cases hrounds
                  | some found' =>
                      rw [hrounds] at hread
                      rw [hrounds'] at hread'
                      exact ih (hsome _ _ hrounds hrounds').skip (by omega) hread hread'

/-- The signs that are no items: they close, part or open a group, or repeat. -/
def groupSigns : List Char :=
  [')', '|', '*', '+', '?', '\x7b', '(']

/-- The flags that a group is read under, if what stands behind a parenthesis opens one. -/
def GroupStart.inner?
    (flags : Flags) :
    GroupStart → Option Flags
  | .flags _ => none
  | .plain inner => some inner
  | .numbered _ => some flags

/-- The rest of a group is read under the flags, in at most so many steps, and ends in
front of a text.  What is read does not count, only where. -/
inductive ReadsGroup : Nat → Flags → List Char → List Char → Prop
  | out
      {flags : Flags} :
      ReadsGroup 0 flags [] []
  | ended
      {n : Nat} {flags : Flags} {cs : List Char} :
      flags.skip cs = [] →
      ReadsGroup (n + 1) flags cs []
  | closed
      {n : Nat} {flags : Flags} {cs rest : List Char} :
      flags.skip cs = ')' :: rest →
      ReadsGroup (n + 1) flags cs (')' :: rest)
  | branch
      {n : Nat} {flags : Flags} {cs more rest : List Char} :
      flags.skip cs = '|' :: more →
      ReadsGroup n flags more rest →
      ReadsGroup (n + 1) flags cs rest
  | setFlags
      {n : Nat} {flags inner : Flags} {cs more body rest : List Char} :
      flags.skip cs = '(' :: more →
      readGroupStart flags more = some (.flags inner, body) →
      ReadsGroup n inner body rest →
      ReadsGroup (n + 1) flags cs rest
  | group
      {n : Nat} {flags inner : Flags} {start : GroupStart} {p q : ReadPattern}
      {cs more body after next rest : List Char} :
      flags.skip cs = '(' :: more →
      readGroupStart flags more = some (start, body) →
      start.inner? flags = some inner →
      ReadsGroup n inner body (')' :: after) →
      readRepeats n flags p after = some (q, next) →
      ReadsGroup n flags next rest →
      ReadsGroup (n + 1) flags cs rest
  | item
      {n : Nat} {flags : Flags} {c : Char} {p q : ReadPattern}
      {cs more after next rest : List Char} :
      flags.skip cs = c :: more →
      c ∉ groupSigns →
      readItem n flags (c :: more) = some (p, after) →
      readRepeats n flags p after = some (q, next) →
      ReadsGroup n flags next rest →
      ReadsGroup (n + 1) flags cs rest

/-- Whatever the nesting and the groups before it, a group that is read has a
derivation. -/
theorem readsGroup_of_readGroup
    {n level : Nat} {flags : Flags} {groups : Groups} {part : GroupPart}
    {cs : List Char} {found : GroupRead}
    (h : readGroup n level flags groups part cs = some found) :
    ReadsGroup n flags cs found.rest := by
  induction n generalizing level flags groups part cs found with
  | zero =>
      rw [readGroup] at h
      split at h
      · next hempty =>
          cases h
          rw [List.isEmpty_iff.1 hempty]
          exact .out
      · cases h
  | succ n ih =>
      rw [readGroup] at h
      cases hskip : flags.skip cs with
      | nil =>
          rw [hskip] at h
          cases h
          exact .ended hskip
      | cons c more =>
          rw [hskip] at h
          by_cases hc : c ∈ groupSigns
          · simp only [groupSigns, List.mem_cons, List.not_mem_nil, or_false] at hc
            rcases hc with rfl | rfl | rfl | rfl | rfl | rfl | rfl
            · cases h
              exact .closed hskip
            · exact .branch hskip (ih h)
            · cases h
            · cases h
            · cases h
            · cases h
            · simp only at h
              split at h
              · cases h
              · cases h
              · next hstart =>
                  exact .setFlags hskip hstart (ih h)
              · next hstart =>
                  split at h
                  · next hinner =>
                      split at h
                      · cases h
                      · next hrepeats =>
                          exact .group hskip hstart rfl (ih hinner) hrepeats (ih h)
                  · cases h
              · next hstart =>
                  split at h
                  · cases h
                  · split at h
                    · next hinner =>
                        split at h
                        · cases h
                        · next hrepeats =>
                            exact .group hskip hstart rfl (ih hinner) hrepeats (ih h)
                    · cases h
          · have hne := hc
            simp only [groupSigns, List.mem_cons, List.not_mem_nil, or_false,
              not_or] at hne
            simp only [List.cons.injEq, hne, false_and, imp_self, implies_true] at h
            split at h
            · cases h
            · next hread =>
                split at h
                · cases h
                · next hrepeats =>
                    exact .item hskip hc hread hrepeats (ih h)

namespace ReadsGroup

variable {n n' : Nat} {flags : Flags} {cs cs' rest rest' : List Char}

/-- No repetition stands at the head of what is read as the rest of a group. -/
theorem readRounds_eq
    (h : ReadsGroup n flags cs rest) :
    readRounds flags (flags.skip cs) = some none := by
  cases h with
  | out =>
      rw [skip_nil]
      rfl
  | ended hskip =>
      rw [hskip]
      rfl
  | closed hskip =>
      rw [hskip]
      rfl
  | branch hskip =>
      rw [hskip]
      rfl
  | setFlags hskip =>
      rw [hskip]
      rfl
  | group hskip =>
      rw [hskip]
      rfl
  | @item _ _ c _ _ _ more _ _ _ hskip hc =>
      rw [hskip]
      simp only [groupSigns, List.mem_cons, List.not_mem_nil, or_false, not_or] at hc
      apply Shut.readRounds_other
      · simp [hc]
      · exact hc.2.2.2.2.2.1

/-! The first character of what is left tells how the reading goes on. -/

theorem of_nil
    (h : ReadsGroup n flags cs rest)
    (hskip : flags.skip cs = []) :
    rest = [] := by
  cases h with
  | out =>
      rfl
  | ended =>
      rfl
  | closed hskip' | branch hskip' | setFlags hskip' | group hskip' | item hskip' =>
      rw [hskip] at hskip'
      cases hskip'

theorem of_closed
    {more : List Char}
    (h : ReadsGroup n flags cs rest)
    (hskip : flags.skip cs = ')' :: more) :
    rest = ')' :: more := by
  cases h with
  | out =>
      rw [skip_nil] at hskip
      cases hskip
  | closed hskip' =>
      rw [hskip] at hskip'
      cases hskip'
      rfl
  | ended hskip' | branch hskip' | setFlags hskip' | group hskip' =>
      rw [hskip] at hskip'
      cases hskip'
  | item hskip' hc =>
      rw [hskip] at hskip'
      cases hskip'
      simp [groupSigns] at hc

theorem of_branch
    {more : List Char}
    (h : ReadsGroup (n + 1) flags cs rest)
    (hskip : flags.skip cs = '|' :: more) :
    ReadsGroup n flags more rest := by
  cases h with
  | branch hskip' hmore =>
      rw [hskip] at hskip'
      cases hskip'
      exact hmore
  | ended hskip' | closed hskip' | setFlags hskip' | group hskip' =>
      rw [hskip] at hskip'
      cases hskip'
  | item hskip' hc =>
      rw [hskip] at hskip'
      cases hskip'
      simp [groupSigns] at hc

theorem of_open
    {more : List Char}
    (h : ReadsGroup (n + 1) flags cs rest)
    (hskip : flags.skip cs = '(' :: more) :
    ∃ start body,
      readGroupStart flags more = some (start, body) ∧
      ((∃ inner, start = .flags inner ∧ ReadsGroup n inner body rest) ∨
        ∃ inner after p q next,
          start.inner? flags = some inner ∧
          ReadsGroup n inner body (')' :: after) ∧
          readRepeats n flags p after = some (q, next) ∧
          ReadsGroup n flags next rest) := by
  cases h with
  | setFlags hskip' hstart hbody =>
      rw [hskip] at hskip'
      cases hskip'
      exact ⟨_, _, hstart, Or.inl ⟨_, rfl, hbody⟩⟩
  | group hskip' hstart hinner hbody hrepeats hrest =>
      rw [hskip] at hskip'
      cases hskip'
      exact ⟨_, _, hstart, Or.inr ⟨_, _, _, _, _, hinner, hbody, hrepeats, hrest⟩⟩
  | ended hskip' | closed hskip' | branch hskip' =>
      rw [hskip] at hskip'
      cases hskip'
  | item hskip' hc =>
      rw [hskip] at hskip'
      cases hskip'
      simp [groupSigns] at hc

theorem of_item
    {c : Char} {more : List Char}
    (h : ReadsGroup (n + 1) flags cs rest)
    (hskip : flags.skip cs = c :: more)
    (hc : c ∉ groupSigns) :
    ∃ p after q next,
      readItem n flags (c :: more) = some (p, after) ∧
      readRepeats n flags p after = some (q, next) ∧
      ReadsGroup n flags next rest := by
  cases h with
  | item hskip' _ hread hrepeats hrest =>
      rw [hskip] at hskip'
      cases hskip'
      exact ⟨_, _, _, _, hread, hrepeats, hrest⟩
  | ended hskip' =>
      rw [hskip] at hskip'
      cases hskip'
  | closed hskip' | branch hskip' | setFlags hskip' | group hskip' =>
      rw [hskip] at hskip'
      cases hskip'
      simp [groupSigns] at hc

/-- Where a first reading has ended, a second one has ended too, or is closed. -/
theorem shut_nil
    (h : ReadsGroup n flags cs rest)
    (hshut : Shut [] (flags.skip cs)) :
    Shut [] rest := by
  generalize hskip : flags.skip cs = head at hshut
  cases hshut with
  | gone =>
      rw [h.of_nil hskip]
      exact .gone
  | here =>
      rw [h.of_closed hskip]
      exact .here

/-- Two readings of a group end at the same place, if the second one has no fewer
steps. -/
theorem shut
    (h : ReadsGroup n flags cs rest)
    (hn : n ≤ n')
    (h' : ReadsGroup n' flags cs' rest')
    (hshut : Shut (flags.skip cs) (flags.skip cs')) :
    Shut rest rest' := by
  induction h generalizing n' cs' rest' with
  | @out flags =>
      rw [skip_nil] at hshut
      exact h'.shut_nil hshut
  | ended hskip =>
      rw [hskip] at hshut
      exact h'.shut_nil hshut
  | closed hskip =>
      rw [hskip] at hshut
      obtain ⟨_, hskip', hrest⟩ := hshut.exists_cons
      rw [h'.of_closed hskip']
      exact .cons _ hrest
  | branch hskip hmore ih =>
      rw [hskip] at hshut
      obtain ⟨_, hskip', hrest⟩ := hshut.exists_cons
      obtain ⟨n', rfl⟩ := Nat.exists_eq_add_of_lt (Nat.lt_of_succ_le hn)
      exact ih (by omega) (h'.of_branch hskip') hrest.skip
  | setFlags hskip hstart hbody ih =>
      rw [hskip] at hshut
      obtain ⟨_, hskip', hrest⟩ := hshut.exists_cons
      obtain ⟨n', rfl⟩ := Nat.exists_eq_add_of_lt (Nat.lt_of_succ_le hn)
      obtain ⟨start', body', hstart', hgoes⟩ := h'.of_open hskip'
      obtain ⟨rfl, hbodies⟩ := hrest.readGroupStart _ _ _ _ hstart hstart'
      rcases hgoes with ⟨inner', heq, hbody'⟩ | ⟨inner', _, _, _, _, heq, _⟩
      · cases heq
        exact ih (by omega) hbody' hbodies.skip
      · cases heq
  | group hskip hstart hinner hbody hrepeats hrest ihbody ihrest =>
      rw [hskip] at hshut
      obtain ⟨_, hskip', hmore⟩ := hshut.exists_cons
      obtain ⟨n', rfl⟩ := Nat.exists_eq_add_of_lt (Nat.lt_of_succ_le hn)
      obtain ⟨start', body', hstart', hgoes⟩ := h'.of_open hskip'
      obtain ⟨rfl, hbodies⟩ := hmore.readGroupStart _ _ _ _ hstart hstart'
      rcases hgoes with
        ⟨inner', heq, _⟩ |
        ⟨inner', after', p', q', next', hinner', hbody', hrepeats', hrest'⟩
      · rw [heq] at hinner
        cases hinner
      · rw [hinner] at hinner'
        cases hinner'
        obtain ⟨_, heq, hafter⟩ := (ihbody (by omega) hbody' hbodies.skip).exists_cons
        cases heq
        have hnext := hafter.skip.readRepeats (by omega) hrepeats hrepeats'
          hrest.readRounds_eq
        exact ihrest (by omega) hrest' hnext
  | item hskip hc hread hrepeats hrest ih =>
      rw [hskip] at hshut
      obtain ⟨_, hskip', hmore⟩ := hshut.exists_cons
      obtain ⟨n', rfl⟩ := Nat.exists_eq_add_of_lt (Nat.lt_of_succ_le hn)
      obtain ⟨p', after', q', next', hread', hrepeats', hrest'⟩ := h'.of_item hskip' hc
      have hafter := ((Shut.cons _ hmore).readItem _ _ _ _ _ _ hread hread').2
      have hnext :=
        hafter.skip.readRepeats (by omega) hrepeats hrepeats' hrest.readRounds_eq
      exact ih (by omega) hrest' hnext

end ReadsGroup

@[simp] theorem skip_plain
    (properties : PropertyClasses)
    (cs : List Char) :
    Flags.skip { properties } cs = cs := by
  rfl

/-- A sequence whose first part is a question begins with it. -/
theorem beginsWith_join
    (l : Look)
    (ps : List Pattern) :
    (join (look l :: ps)).beginsWith l = true := by
  have hparts :
      ((look l :: ps).flatMap parts).foldr joinPart []
        =
      look l :: (ps.flatMap parts).foldr joinPart [] := by
    rfl
  rw [join, hparts]
  cases (ps.flatMap parts).foldr joinPart [] with
  | nil =>
      simp [join.nest, beginsWith]
  | cons p rest =>
      simp [join.nest, beginsWith]

/-- Behind `(?:` a group is read up to its parenthesis, then the repetitions behind it,
then the rest. -/
theorem readGroup_open
    {n level : Nat} {part : GroupPart} {cs : List Char} {found : GroupRead}
    {properties : PropertyClasses}
    (h :
      readGroup (n + 1) (level + 1) { properties } {} part ('(' :: '?' :: ':' :: cs)
        = some found) :
    ∃ inner later after q next,
      readGroup n level { properties } {} {} cs = some ⟨inner, later, ')' :: after⟩ ∧
      readRepeats n { properties } ⟨inner.pattern, inner.depth + 1⟩ after =
        some (q, next) ∧
      readGroup n (level + 1) { properties } later (part.push q) next = some found := by
  have hplain :
      readGroupStart { properties } ('?' :: ':' :: cs) =
        some (.plain { properties }, cs) := by
    rfl
  rw [readGroup, skip_plain] at h
  simp only [hplain] at h
  split at h
  · next hinner =>
      split at h
      · cases h
      · next hrepeats =>
          exact ⟨_, _, _, _, _, hinner, hrepeats, h⟩
  · cases h

/-- The text of a rule is read as a group behind the start of the text, and as what the
text leaves outside of that group. -/
theorem exists_group_of_readRule?
    {cs : List Char} {p : Pattern} {properties : PropertyClasses}
    (h : readRule? cs properties = some p) :
    ∃ inner later after q next found,
      readGroup (cs.length + 4) (maxDepth - 1) { properties } {} {} (cs ++ [')'])
        = some ⟨inner, later, ')' :: after⟩ ∧
      readRepeats (cs.length + 4) { properties } ⟨inner.pattern, inner.depth + 1⟩ after
        = some (q, next) ∧
      readGroup (cs.length + 4) maxDepth { properties } later
        ⟨[], [q, ⟨look .textStart, 0⟩]⟩ next
        = some found ∧
      p = found.value.pattern := by
  unfold readRule? read? at h
  have hlength : ("^(?:".toList ++ cs ++ [')']).length + 1 = cs.length + 4 + 1 + 1 := by
    simp
  have hstart : ∀ n,
      readGroup (n + 1 + 1) maxDepth { properties } {} {} ("^(?:".toList ++ cs ++ [')'])
        =
      readGroup (n + 1) maxDepth { properties } {} ⟨[], [⟨look .textStart, 0⟩]⟩
        ('(' :: '?' :: ':' :: (cs ++ [')'])) := by
    intro n
    rfl
  rw [hlength, hstart] at h
  split at h
  · next value groups hread =>
      obtain ⟨inner, later, after, q, next, hinner, hrepeats, hrest⟩ :=
        @readGroup_open _ (maxDepth - 1) _ _ _ _ hread
      split at h
      · cases h
        exact ⟨inner, later, after, q, next, _, hinner, hrepeats, hrest, rfl⟩
      · cases h
  · cases h

/-- A text that is a pattern by itself stays in its group, so that the rule made of it
begins with the start of the text. -/
theorem isAnchored_of_read?
    {cs : List Char} {p : Pattern} {properties : PropertyClasses}
    (hself : (read? cs properties).isSome)
    (hrule : readRule? cs properties = some p) :
    p.isAnchored = true := by
  obtain ⟨inner, later, after, q, next, found, hinner, hrepeats, hrest, rfl⟩ :=
    exists_group_of_readRule? hrule
  have halone : ∃ value groups,
      readGroup (cs.length + 1) maxDepth { properties } {} {} cs =
        some ⟨value, groups, []⟩ := by
    unfold read? at hself
    split at hself
    · next hread =>
        exact ⟨_, _, hread⟩
    · cases hself
  obtain ⟨value, groups, halone⟩ := halone
  have hend : Shut [] (')' :: after) :=
    (readsGroup_of_readGroup halone).shut (by omega) (readsGroup_of_readGroup hinner)
      (Shut.append_paren cs)
  cases hend
  have hnext : next = [] ∧ q = ⟨inner.pattern, inner.depth + 1⟩ := by
    cases hrepeats
    exact ⟨rfl, rfl⟩
  obtain ⟨rfl, rfl⟩ := hnext
  cases hrest
  exact beginsWith_join .textStart [inner.pattern]

end Pattern
end TableLexer
