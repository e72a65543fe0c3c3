import TableLexer.Proofs.Builtin.Patterns
import TableLexer.Proofs.Pattern.Grouping
import TableLexer.Proofs.Pattern.Held
import TableLexer.Proofs.Segmentation

/-!
# Matches at the scan position

A rule takes all that stands before the end of its match, so it should match where the
input begins and nowhere else.  What it finds is the leftmost match of its pattern
behind the start of the text.  If the declared pattern can be read by itself, that
match begins with the input, and the rule takes the matched text.

A pattern that cannot be read by itself may close the group that it is put into, and
open another one that nothing holds at the start.

Which classes the names of properties have does not matter to this: the pattern by
itself and the pattern in its group are read with the same tables, whatever these are.
-/

namespace TableLexer

/-- The text of a match. -/
def Pattern.Occurrence.text
    (o : Pattern.Occurrence)
    (input : List Char) :
    List Char :=
  (input.drop o.first).take (o.stop - o.first)

namespace Rule

open Pattern

variable {d : Declaration} {r : Rule} {input : List Char} {o : Occurrence}
  {properties : PropertyClasses}

theorem exists_pattern
    (h : ofDeclaration? d properties = some r) :
    ∃ p,
      readRule? d.pattern.toList properties = some p ∧
      Matcher.ofPattern? p = some r.matcher := by
  unfold ofDeclaration? at h
  split at h
  · cases h
  · next p hp =>
      obtain ⟨m, hm, rfl⟩ := Option.map_eq_some_iff.1 h
      exact ⟨p, hp, hm⟩

/-- What a rule finds is the leftmost match of its pattern. -/
theorem search_eq_searchFrom
    (h : ofDeclaration? d properties = some r)
    (input : List Char) :
    r.matcher.search input = Matcher.searchFrom r.matcher.engine none 0 input := by
  obtain ⟨p, _, hm⟩ := exists_pattern h
  exact Matcher.search_eq_searchFrom hm input

theorem first_eq_zero
    (h : r.matcher.anchored = true)
    (hfound : r.matcher.search input = some o) :
    o.first = 0 := by
  rw [Matcher.search, if_pos h] at hfound
  obtain ⟨stop, _, rfl⟩ := Option.map_eq_some_iff.1 hfound
  rfl

/-- A pattern that can be read by itself makes a rule for the scan position only. -/
theorem anchored_of_read?
    (h : ofDeclaration? d properties = some r)
    (hself : (read? d.pattern.toList properties).isSome) :
    r.matcher.anchored = true := by
  obtain ⟨p, hp, hm⟩ := exists_pattern h
  unfold Matcher.ofPattern? at hm
  split at hm
  · rw [← Option.some.inj hm]
    exact isAnchored_of_read? hself hp
  · cases hm

theorem search_of_matchChars?
    {n : Nat}
    (h : r.matchChars? input = some n) :
    ∃ o, r.matcher.search input = some o ∧ o.stop = n := by
  unfold matchChars? at h
  split at h
  · next o ho =>
      split at h
      · cases h
      · exact ⟨o, ho, Option.some.inj h⟩
  · cases h

theorem matchText?_eq_take
    {n : Nat}
    (h : r.matchBytes? input = some n) :
    ∃ o, r.matcher.search input = some o ∧
      o.stop ≤ input.length ∧
      r.matchText? input = some (input.take o.stop) ∧
      Text.byteCount (input.take o.stop) = n := by
  obtain ⟨text, htext, hbytes⟩ := Option.map_eq_some_iff.1 h
  obtain ⟨k, hk, rfl⟩ := Option.map_eq_some_iff.1 htext
  have hle := matchChars?_le hk
  obtain ⟨o, ho, rfl⟩ := search_of_matchChars? hk
  exact ⟨o, ho, hle, htext, hbytes⟩

/--
Where a rule matches, it takes the input up to the end of the leftmost match of its
pattern.  If the declared pattern can be read by itself, that match begins with the
input, so the text that the rule takes is the matched text.  So it is whatever classes
the properties in the pattern have.
-/
theorem match_begins_at_start
    {n : Nat}
    (hrule : ofDeclaration? d properties = some r)
    (hmatch : r.matchBytes? input = some n) :
    ∃ o,
      r.matcher.search input = some o ∧
      Matcher.searchFrom r.matcher.engine none 0 input = some o ∧
      r.matchText? input = some (input.take o.stop) ∧
      o.stop ≤ input.length ∧
      Text.byteCount (input.take o.stop) = n ∧
      ((read? d.pattern.toList properties).isSome →
        o.first = 0 ∧ r.matchText? input = some (o.text input)) := by
  obtain ⟨o, ho, hle, htext, hbytes⟩ := matchText?_eq_take hmatch
  have hleftmost := search_eq_searchFrom hrule input
  rw [ho] at hleftmost
  refine ⟨o, ho, hleftmost.symm, htext, hle, hbytes, ?_⟩
  intro hself
  have hfirst := first_eq_zero (anchored_of_read? hrule hself) ho
  refine ⟨hfirst, ?_⟩
  rw [Occurrence.text, hfirst]
  exact htext

/-- For a choice between a letter and a digit of any script. -/
theorem match_begins_at_start_choice :
    ∃ r, ofDeclaration? ⟨.operator, "a|\\p\x7bNd\x7d"⟩ .held = some r ∧
      (read? "a|\\p\x7bNd\x7d".toList .held).isSome ∧
      r.matchBytes? ['٣', 'a'] = some 2 ∧
      ∃ o, r.matcher.search ['٣', 'a'] = some o ∧
        o.first = 0 ∧
        r.matchText? ['٣', 'a'] = some (o.text ['٣', 'a']) := by
  obtain ⟨r, hrule⟩ : ∃ r, ofDeclaration? ⟨.operator, "a|\\p\x7bNd\x7d"⟩ .held = some r :=
    Option.isSome_iff_exists.1 (by decide +kernel)
  have hself : (read? "a|\\p\x7bNd\x7d".toList .held).isSome := by
    decide +kernel
  have hmatch : r.matchBytes? ['٣', 'a'] = some 2 := by
    have hbind :
        (ofDeclaration? ⟨.operator, "a|\\p\x7bNd\x7d"⟩ .held).bind
            (fun r => r.matchBytes? ['٣', 'a'])
          =
        some 2 := by
      decide +kernel
    rw [hrule] at hbind
    exact hbind
  obtain ⟨o, ho, _, _, _, _, hstart⟩ := match_begins_at_start hrule hmatch
  obtain ⟨hfirst, htext⟩ := hstart hself
  exact ⟨r, hrule, hself, hmatch, o, ho, hfirst, htext⟩

/-- A rule may match behind the start of its input.  This one takes `xb`, though its match
is `b` alone. -/
theorem match_begins_behind_start :
    ∃ r, ofDeclaration? ⟨.operator, "a)|(?:b"⟩ = some r ∧
      r.matchBytes? ['x', 'b'] = some 2 ∧
      r.matcher.search ['x', 'b'] = some ⟨1, 2⟩ ∧
      r.matchText? ['x', 'b'] = some ['x', 'b'] := by
  obtain ⟨r, hrule⟩ : ∃ r, ofDeclaration? ⟨.operator, "a)|(?:b"⟩ = some r :=
    Option.isSome_iff_exists.1 (by decide +kernel)
  have hall :
      (ofDeclaration? ⟨.operator, "a)|(?:b"⟩).all (fun r =>
        r.matchBytes? ['x', 'b'] = some 2 ∧
        r.matcher.search ['x', 'b'] = some ⟨1, 2⟩ ∧
        r.matchText? ['x', 'b'] = some ['x', 'b']) = true := by
    decide +kernel
  rw [hrule] at hall
  exact ⟨r, hrule, of_decide_eq_true hall⟩

end Rule

/-- The rules of the built-in tables match at the scan position only. -/
theorem Table.searchFrom_builtin
    {l : Language} {r : Rule} {input : List Char} {n : Nat}
    (hr : r ∈ (builtin l).rules)
    (hmatch : r.matchChars? input = some n) :
    Pattern.Matcher.searchFrom r.matcher.engine none 0 input = some ⟨0, n⟩ := by
  have hanchored : r.matcher.anchored = true := by
    have hmem := List.mem_map_of_mem (f := fun r : Rule => (r.kind, r.matcher)) hr
    rw [builtin_matchers] at hmem
    obtain ⟨⟨kind, p⟩, _, heq⟩ := List.mem_map.1 hmem
    have hmatcher : walking p = r.matcher := congrArg Prod.snd heq
    rw [← hmatcher]
    rfl
  rw [builtin_rules] at hr
  obtain ⟨d, _, hrule⟩ := List.mem_filterMap.1 hr
  rw [← Rule.search_eq_searchFrom hrule]
  obtain ⟨o, ho, hstop⟩ := Rule.search_of_matchChars? hmatch
  have hfirst := Rule.first_eq_zero hanchored ho
  rw [ho, ← hfirst, ← hstop]

end TableLexer
