import TableLexer.Proofs.Builtin.Separated
import TableLexer.Proofs.Pattern.Preference

/-!
# What the patterns of the built-in tables take

A built-in table asks its patterns one after the other for the text that each of them
prefers, and finds the first one that there is (`findMatch_builtin`).  For the patterns
that several tables share, this module says which text that is, in terms of the text
alone: a run is a `takeWhile`, a string goes to the next quotation mark, and an enclosed
text to the first closing behind its opening.
-/

namespace TableLexer

theorem Text.exists_of_through?
    {closing text w : List Char}
    (h : through? closing text = some w) :
    ∃ u rest, w = u ++ closing ∧ text = w ++ rest := by
  induction text generalizing w with
  | nil =>
      cases h
  | cons c text ih =>
      rw [through?] at h
      split at h
      · next hprefix =>
          obtain ⟨rest, hrest⟩ := List.isPrefixOf_iff_prefix.1 hprefix
          cases h
          exact ⟨[], rest, rfl, hrest.symm⟩
      · obtain ⟨v, hv, rfl⟩ := Option.map_eq_some_iff.1 h
        obtain ⟨u, rest, rfl, rfl⟩ := ih hv
        exact ⟨c :: u, rest, rfl, rfl⟩

namespace Pattern

namespace CharSet

theorem contains_single_eq
    (c d : Char) :
    (single c).contains d = (c == d) := by
  rw [Bool.eq_iff_iff, contains_single, beq_iff_eq, eq_comm]

/-- A set of ASCII characters is a test that only ASCII characters pass, if they agree on
those. -/
theorem contains_eq_of_ascii
    {s : CharSet} {test : Char → Bool}
    (hs : s.isAscii = true)
    (htest : ∀ c, test c = true → c.toNat < 128)
    (h : ∀ n < 128, s.contains (Char.ofNat n) = test (Char.ofNat n))
    (c : Char) :
    s.contains c = test c := by
  rw [Bool.eq_iff_iff]
  constructor
  · refine forall_of_ascii _ _ (fun _ => lt_of_isAscii hs) ?_
    intro n hn hc
    rwa [← h n hn]
  · refine forall_of_ascii _ _ htest ?_
    intro n hn hc
    rwa [h n hn]

/-- The set holds the ASCII characters of the list and no others. -/
def lists (s : CharSet) (cs : List Char) : Bool :=
  s.isAscii && (cs.all fun c => c.toNat < 128) &&
    (List.range 128).all fun n => s.contains (Char.ofNat n) == cs.contains (Char.ofNat n)

theorem contains_eq_of_lists
    {s : CharSet} {cs : List Char}
    (h : s.lists cs = true)
    (c : Char) :
    s.contains c = cs.contains c := by
  rw [lists, Bool.and_eq_true, Bool.and_eq_true, List.all_eq_true, List.all_eq_true] at h
  obtain ⟨⟨hs, hcs⟩, hall⟩ := h
  apply contains_eq_of_ascii hs
  · intro d hd
    simpa using hcs d (List.contains_iff_mem.1 hd)
  · intro n hn
    simpa using hall n (List.mem_range.2 hn)

end CharSet

namespace Plain

variable {c : Char} {rest : List Char}

theorem text?_run
    (s : CharSet)
    (c : Char) (rest : List Char) :
    (run s).text? (c :: rest)
      =
    if s.contains c then some ((c :: rest).takeWhile s.contains) else none := by
  rw [run, text?_seq_many rfl, text?_one]
  by_cases hc : s.contains c = true <;> simp [hc]

theorem nullable_anyOf
    (ps : List Plain) :
    (anyOf ps).nullable = ps.any nullable := by
  induction ps with
  | nil =>
      rfl
  | cons p ps ih =>
      cases ps with
      | nil =>
          simp [anyOf]
      | cons q ps =>
          rw [anyOf, nullable, ih, List.any_cons (a := p)]

theorem takes_ofText
    (text : List Char)
    (before : Option Char)
    (input : List Char) :
    (ofText text).takes before input =
      if text.isPrefixOf input then [text.length] else [] := by
  induction text generalizing before input with
  | nil =>
      rfl
  | cons c text ih =>
      cases text with
      | nil =>
          cases input with
          | nil =>
              rfl
          | cons d input =>
              simp [ofText, takes, CharSet.contains_single_eq]
      | cons e text =>
          cases input with
          | nil =>
              rfl
          | cons d input =>
              rw [ofText, takes_one_seq, ih, CharSet.contains_single_eq,
                List.isPrefixOf.eq_3 c (e :: text)]
              cases c == d with
              | false =>
                  rfl
              | true =>
                  rw [if_pos rfl, Bool.true_and]
                  split
                  · simp [Nat.add_comm 1]
                  · rfl

theorem text?_ofText
    {text : List Char}
    (hne : text ≠ [])
    (input : List Char) :
    (ofText text).text? input = if text.isPrefixOf input then some text else none := by
  have hpos := List.length_pos_of_ne_nil hne
  rw [Plain.text?, chars?, takes_ofText]
  split
  · next hprefix =>
      have htake := List.prefix_iff_eq_take.1 (List.isPrefixOf_iff_prefix.1 hprefix)
      simp [hpos, ← htake]
  · rfl

/-- A lazy run between an opening and a closing goes up to the first closing. -/
theorem head?_takes_closing
    {closing : List Char}
    (hne : closing ≠ [])
    (before : Option Char)
    (text : List Char) :
    ((seq (many .all false) (ofText closing)).takes before text).head?
      =
    (Text.through? closing text).map List.length := by
  induction text generalizing before with
  | nil =>
      have hprefix : closing.isPrefixOf [] = false := by
        cases closing with
        | nil =>
            exact absurd rfl hne
        | cons c closing =>
            rfl
      simp [takes, takes_ofText, hprefix, Text.through?]
  | cons c text ih =>
      rw [takes_lazy_cons (CharSet.contains_all c), takes_ofText, Text.through?]
      split
      · rfl
      · rw [List.nil_append, List.head?_map, ih, Option.map_map, Option.map_map]
        congr 1
        funext w
        simp [Nat.add_comm]

theorem nullable_ofText
    (text : List Char) :
    (ofText text).nullable = text.isEmpty := by
  match text with
  | [] =>
      rfl
  | [c] =>
      rfl
  | c :: d :: rest =>
      rfl

theorem nullable_enclosed
    {opening closing : List Char}
    (hne : closing ≠ []) :
    (enclosed opening closing).nullable = false := by
  simp [enclosed, nullable, nullable_ofText, hne]

/-- An enclosed text goes from its opening to the first closing behind it. -/
theorem text?_enclosed
    {opening closing : List Char}
    (hne : closing ≠ [])
    (rest : List Char) :
    (enclosed opening closing).text? (opening ++ rest)
      =
    (Text.through? closing rest).map (opening ++ ·) := by
  rw [Plain.text?, chars?_eq_head? (nullable_enclosed hne), enclosed, takes, takes_ofText,
    if_pos (List.isPrefixOf_iff_prefix.2 (List.prefix_append opening rest)),
    List.flatMap_singleton, List.take_left, List.drop_left, List.head?_map,
    head?_takes_closing hne, Option.map_map, Option.map_map]
  cases hthrough : Text.through? closing rest with
  | none =>
      rfl
  | some w =>
      obtain ⟨_, more, _, rfl⟩ := Text.exists_of_through? hthrough
      simp [List.take_length_add_append]

theorem text?_enclosed_of_not_prefix
    {opening closing input : List Char}
    (h : ¬ opening <+: input) :
    (enclosed opening closing).text? input = none := by
  rw [Option.eq_none_iff_forall_ne_some]
  intro w hw
  obtain ⟨_, more, rfl, haccepts⟩ := exists_accepts_of_text? hw
  obtain ⟨u, rfl⟩ := accepts_enclosed.1 haccepts
  apply h
  rw [List.append_assoc]
  exact List.prefix_append _ _

/-- A run behind an opening is as long as it can be. -/
theorem text?_opened
    {opening : List Char}
    (hne : opening ≠ [])
    (s : CharSet)
    (rest : List Char) :
    (seq (ofText opening) (many s true)).text? (opening ++ rest)
      =
    some (opening ++ rest.takeWhile s.contains) := by
  have hnullable : (ofText opening).nullable = false := by
    simpa [nullable_ofText] using hne
  rw [text?_seq_many hnullable, text?_ofText hne,
    if_pos (List.isPrefixOf_iff_prefix.2 (List.prefix_append opening rest)),
    Option.map_some, List.drop_left]

theorem text?_opened_of_not_prefix
    {opening input : List Char}
    (hne : opening ≠ [])
    (s : CharSet)
    (h : ¬ opening <+: input) :
    (seq (ofText opening) (many s true)).text? input = none := by
  have hnullable : (ofText opening).nullable = false := by
    simpa [nullable_ofText] using hne
  rw [text?_seq_many hnullable, text?_ofText hne,
    if_neg (by simpa [List.isPrefixOf_iff_prefix] using h), Option.map_none]

theorem text?_single_seq
    {q : Plain}
    (hlooks : q.looks = [])
    (hnullable : q.nullable = false)
    (d c : Char) (rest : List Char) :
    (seq (one (.single d)) q).text? (c :: rest)
      =
    if c = d then (q.text? rest).map (d :: ·) else none := by
  rw [text?_one_seq hlooks hnullable]
  by_cases hc : c = d
  · subst hc
    rw [if_pos (CharSet.contains_single.2 rfl), if_pos rfl]
  · rw [if_neg (CharSet.contains_single.not.2 hc), if_neg hc]

/-- What stands behind an opening is taken as if it stood alone. -/
theorem text?_ofText_seq
    {q : Plain}
    (hlooks : q.looks = [])
    (hnullable : q.nullable = false)
    (text input : List Char) :
    (seq (ofText text) q).text? input
      =
    if text.isPrefixOf input then (q.text? (input.drop text.length)).map (text ++ ·)
    else none := by
  have hseq : (seq (ofText text) q).nullable = false := by
    rw [nullable, hnullable, Bool.and_false]
  rw [Plain.text?, chars?_eq_head? hseq, takes, takes_ofText]
  split
  · next hprefix =>
      obtain ⟨rest, rfl⟩ := List.isPrefixOf_iff_prefix.1 hprefix
      rw [List.flatMap_singleton, List.take_left, List.drop_left,
        takes_of_looks_eq_nil hlooks _ none, Plain.text?, chars?_eq_head? hnullable,
        List.head?_map, Option.map_map, Option.map_map]
      congr 1
      funext n
      exact List.take_length_add_append n
  · rfl

/-- A run goes up to the part behind it, if that begins with none of its characters. -/
theorem text?_run_seq
    {s : CharSet} {q : Plain}
    (hlooks : q.looks = [])
    (hnullable : q.nullable = false)
    (hapart : ∀ t ∈ q.starts, s.apart t = true)
    (input : List Char) :
    (seq (run s) q).text? input
      =
    if (input.takeWhile s.contains).isEmpty then
      none
    else
      (q.text? (input.dropWhile s.contains)).map (input.takeWhile s.contains ++ ·) := by
  have hmany : (seq (many s true) q).nullable = false := by
    rw [nullable, hnullable, Bool.and_false]
  have hmanyLooks : (seq (many s true) q).looks = [] := by
    rw [looks, looks, hlooks, List.append_nil]
  have hassoc : (seq (run s) q).text? input =
      (seq (one s) (seq (many s true) q)).text? input :=
    text?_congr (takes_seq_assoc _ _ _ none input)
  rw [hassoc]
  cases input with
  | nil =>
      exact text?_nil rfl
  | cons c rest =>
      rw [text?_one_seq hmanyLooks hmany, text?_many_seq hlooks hnullable hapart]
      by_cases hc : s.contains c = true
      · simp [hc, Function.comp_def]
      · simp [hc]

/-- A run up to a mark ends at the first one. -/
theorem text?_through
    (q : Char)
    (input : List Char) :
    (seq (many (CharSet.single q).compl true) (one (.single q))).text? input
      =
    Text.through? [q] input := by
  have haccepts : ∀ {w rest},
      (seq (many (CharSet.single q).compl true) (one (.single q))).Accepts none w rest
        ↔
      ∃ u, w = u ++ [q] ∧ q ∉ u := by
    intro w rest
    simp only [Accepts, CharSet.contains_single, CharSet.contains_compl_single]
    constructor
    · rintro ⟨u, _, rfl, hu, _, rfl, rfl⟩
      exact ⟨u, rfl, fun hq => hu _ hq rfl⟩
    · rintro ⟨u, rfl, hq⟩
      refine ⟨u, [q], rfl, ?_, q, rfl, rfl⟩
      rintro c hc rfl
      exact hq hc
  have hsole : (seq (many (CharSet.single q).compl true) (one (.single q))).Sole := by
    intro v w rest more hsplit hv hw
    obtain ⟨u, rfl, hu⟩ := haccepts.1 hv
    obtain ⟨u', rfl, hu'⟩ := haccepts.1 hw
    rw [List.append_assoc, List.append_assoc] at hsplit
    rw [append_cons_left_inj hu hu' hsplit]
  apply Option.ext
  intro w
  rw [hsole.text?_eq_some_iff rfl, Text.through?_singleton_eq_some_iff]
  simp only [haccepts]
  constructor
  · rintro ⟨rest, rfl, u, rfl, hu⟩
    exact ⟨u, rest, rfl, hu, rfl⟩
  · rintro ⟨u, rest, rfl, hu, rfl⟩
    exact ⟨rest, rfl, u, rfl, hu⟩

theorem text?_quoted
    (q c : Char) (rest : List Char) :
    (quoted q).text? (c :: rest)
      =
    if c = q then (Text.through? [q] rest).map (q :: ·) else none := by
  rw [quoted, text?_single_seq rfl rfl, text?_through]

/-- A quotation mark opens a string up to the next one of its kind. -/
theorem text?_strings
    (quotes : List Char)
    (c : Char) (rest : List Char) :
    (strings quotes).text? (c :: rest)
      =
    if c ∈ quotes then (Text.through? [c] rest).map (c :: ·) else none := by
  unfold strings
  induction quotes with
  | nil =>
      rfl
  | cons q quotes ih =>
      have hsplit :
          (anyOf ((q :: quotes).map quoted)).text? (c :: rest)
            =
          ((quoted q).text? (c :: rest)).or
            ((anyOf (quotes.map quoted)).text? (c :: rest)) := by
        cases quotes with
        | nil =>
            exact Option.or_none.symm
        | cons r quotes =>
            exact text?_alt rfl _
      rw [hsplit, text?_quoted, ih]
      by_cases hc : c = q
      · subst hc
        cases Text.through? [c] rest <;> simp
      · simp [hc]

end Plain
end Pattern

namespace Table

open Pattern

/-- The text that the first of the patterns takes that takes any, with its kind. -/
def firstText?
    (ps : List (Kind × Plain))
    (input : List Char) :
    Option (Kind × List Char) :=
  ps.findSome? fun (kind, p) => (p.text? input).map fun w => (kind, w)

@[simp] theorem firstText?_nil
    (input : List Char) :
    firstText? [] input = none := by
  rfl

theorem firstText?_cons
    (kind : Kind) (p : Plain)
    (ps : List (Kind × Plain))
    (input : List Char) :
    firstText? ((kind, p) :: ps) input
      =
    ((p.text? input).map fun w => (kind, w)).or (firstText? ps input) := by
  rw [firstText?, List.findSome?_cons]
  dsimp only
  cases p.text? input <;> rfl

theorem firstText?_append
    (ps qs : List (Kind × Plain))
    (input : List Char) :
    firstText? (ps ++ qs) input = (firstText? ps input).or (firstText? qs input) := by
  rw [firstText?, List.findSome?_append]
  rfl

theorem firstText?_eq_map
    (ps : List (Kind × Plain))
    (input : List Char) :
    firstText? ps input
      =
    (firstMatch? ps input).map fun (found : Kind × Nat) =>
      (found.1, input.take found.2) := by
  rw [firstText?, firstMatch?, List.map_findSome?]
  congr 1
  funext e
  simp [Plain.text?, Function.comp_def]

theorem exists_mem_of_firstText?
    {ps : List (Kind × Plain)}
    {input w : List Char} {kind : Kind}
    (h : firstText? ps input = some (kind, w)) :
    ∃ p, (kind, p) ∈ ps ∧ p.text? input = some w := by
  obtain ⟨⟨k, p⟩, hmem, hp⟩ := List.exists_of_findSome?_eq_some h
  obtain ⟨v, hv, heq⟩ := Option.map_eq_some_iff.1 hp
  cases heq
  exact ⟨p, hmem, hv⟩

/-- A table whose rules walk patterns finds the text of the first one that takes any. -/
theorem findMatch_of_walking
    {t : Table} {ps : List (Kind × Plain)}
    (h : (t.rules.map fun r => (r.kind, r.matcher)) =
      ps.map fun (kind, p) => (kind, walking p))
    (input : List Char) :
    t.findMatch input = firstText? ps input := by
  rw [firstText?_eq_map, findMatch, matchHead?_of_walking h]

/-- So does a built-in table. -/
theorem findMatch_builtin
    (l : Language)
    (input : List Char) :
    (builtin l).findMatch input = firstText? (patterns l) input :=
  findMatch_of_walking (builtin_matchers l) input

end Table
end TableLexer
