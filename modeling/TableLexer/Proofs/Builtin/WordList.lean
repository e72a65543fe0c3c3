import TableLexer.Proofs.Pattern.Grouping
import TableLexer.Proofs.Pattern.Reach

/-!
# Lists of words as patterns

The keywords of a language are declared as one list, and their pattern is read from it.
Any list of words of letters is read as the pattern of these words, as long as it is not
too long.
-/

namespace TableLexer
namespace Pattern

variable {n level : Nat} {groups : Groups} {part : GroupPart}
  {c : Char} {word cs rest : List Char}

/-- What is read for a letter. -/
def letterRead (c : Char) : ReadPattern :=
  ⟨text [c], 0⟩

theorem ofSet_single
    (c : Char) :
    ofSet (.single c) = text [c] := by
  simp [ofSet, CharSet.single, CharSet.range, CharSet.only?]

/-- Letters are no signs. -/
theorem not_sign_of_isAlpha
    (hc : c.isAlpha = true) :
    c ∉ ['\\', '[', '^', '$', '.'] ++ groupSigns := by
  intro hmem
  have hall : (['\\', '[', '^', '$', '.'] ++ groupSigns).all (fun d => !d.isAlpha) =
      true := by
    decide
  have hnot := List.all_eq_true.1 hall c hmem
  rw [hc] at hnot
  cases hnot

theorem readItem_letter
    (hc : c.isAlpha = true)
    (n : Nat) (rest : List Char) :
    readItem n {} (c :: rest) = some (letterRead c, rest) := by
  have hne := not_sign_of_isAlpha hc
  simp only [List.mem_append, List.mem_cons, List.not_mem_nil, or_false, not_or] at hne
  have hset : ofSet (Flags.apply {} (.single c)) = text [c] := ofSet_single c
  unfold readItem
  simp only [hne, imp_self, hset]
  rfl

theorem readRounds_letter
    (hc : c.isAlpha = true)
    (rest : List Char) :
    readRounds {} (c :: rest) = some none := by
  have hne := not_sign_of_isAlpha hc
  simp only [groupSigns, List.mem_append, List.mem_cons, List.not_mem_nil, or_false,
    not_or] at hne
  apply Shut.readRounds_other
  · simp [hne]
  · exact hne.2.2.2.2.2.2.1

theorem readRepeats_none
    (h : readRounds {} cs = some none)
    (n : Nat) (p : ReadPattern) :
    readRepeats n {} p cs = some (p, cs) := by
  cases n with
  | zero =>
      rfl
  | succ n =>
      rw [readRepeats, skip_plain, h]

/-- A letter that is not repeated is one more item. -/
theorem readGroup_letter
    (hc : c.isAlpha = true)
    (hrest : readRounds {} rest = some none) :
    readGroup (n + 1) level {} groups part (c :: rest)
      =
    readGroup n level {} groups (part.push (letterRead c)) rest := by
  have hne := not_sign_of_isAlpha hc
  simp only [groupSigns, List.mem_append, List.mem_cons, List.not_mem_nil, or_false,
    not_or] at hne
  rw [readGroup, skip_plain]
  simp only [List.cons.injEq, hne, false_and, imp_self, implies_true, readItem_letter hc,
    readRepeats_none hrest]

/-- The letters of a word are items, one after the other. -/
theorem readGroup_word
    (hword : ∀ c ∈ word, c.isAlpha = true)
    (hrest : readRounds {} rest = some none) :
    readGroup (n + word.length) level {} groups part (word ++ rest)
      =
    readGroup n level {} groups
      ⟨part.branches, (word.map letterRead).reverse ++ part.items⟩ rest := by
  induction word generalizing part with
  | nil =>
      rfl
  | cons c word ih =>
      have hmore : readRounds {} (word ++ rest) = some none := by
        cases word with
        | nil =>
            exact hrest
        | cons d word =>
            exact readRounds_letter (hword d (by simp)) _
      rw [List.length_cons, ← Nat.add_assoc, List.cons_append,
        readGroup_letter (hword c List.mem_cons_self) hmore,
        ih fun d hd => hword d (List.mem_cons_of_mem _ hd)]
      simp [GroupPart.push]

/-- The branch of a word. -/
def wordRead (word : List Char) : ReadPattern :=
  GroupPart.branch ⟨[], (word.map letterRead).reverse⟩

/-- The words between bars are the branches of the group, and the parenthesis closes it. -/
theorem readGroup_words
    {words : List (List Char)} {branches : List ReadPattern}
    (hwords : ∀ word ∈ words, ∀ c ∈ word, c.isAlpha = true)
    (hne : words ≠ []) :
    readGroup (n + 1 + (['|'].intercalate words).length) level {} groups ⟨branches, []⟩
        (['|'].intercalate words ++ ')' :: rest)
      =
    some ⟨GroupPart.value ⟨(words.dropLast.map wordRead).reverse ++ branches,
      ((words.getLast hne).map letterRead).reverse⟩, groups, ')' :: rest⟩ := by
  induction words generalizing branches with
  | nil =>
      exact absurd rfl hne
  | cons word words ih =>
      cases words with
      | nil =>
          rw [List.intercalate_singleton, readGroup_word (hwords word (by simp)) rfl]
          simp [readGroup, skip_plain]
      | cons next words =>
          have hlength :
              n + 1 + (['|'].intercalate (word :: next :: words)).length
                =
              n + 1 + (['|'].intercalate (next :: words)).length + 1 + word.length := by
            rw [List.intercalate_cons_cons]
            simp only [List.length_append, List.length_singleton]
            omega
          rw [hlength, List.intercalate_cons_cons, List.append_assoc, List.append_assoc,
            readGroup_word (hwords word (by simp)) rfl, List.singleton_append, readGroup,
            skip_plain]
          have hbranch :
              GroupPart.nextBranch ⟨branches, (word.map letterRead).reverse ++ []⟩
                =
              ⟨wordRead word :: branches, []⟩ := by
            rw [List.append_nil]
            rfl
          have hnext := @ih (wordRead word :: branches)
            (fun w hw => hwords w (List.mem_cons_of_mem _ hw))
              (List.cons_ne_nil next words)
          simp only [hbranch, hnext, List.dropLast_cons_cons, List.getLast_cons_cons]
          simp

theorem foldr_joinPart_letters
    (word : List Char)
    (c : Char) :
    ((c :: word).map fun d => text [d]).foldr joinPart [] = [text (c :: word)] := by
  induction word generalizing c with
  | nil =>
      rfl
  | cons d word ih =>
      rw [List.map_cons, List.foldr_cons, ih d]
      rfl

/-- The letters of a word are joined to one text. -/
theorem wordRead_eq
    (hne : word ≠ []) :
    (wordRead word).pattern = text word := by
  obtain ⟨c, word, rfl⟩ := List.exists_cons_of_ne_nil hne
  have hparts :
      (((c :: word).map letterRead).map ReadPattern.pattern).flatMap parts
        =
      (c :: word).map fun d => text [d] := by
    rw [List.map_map, List.flatMap_map, List.map_eq_flatMap]
    rfl
  rw [wordRead, GroupPart.branch]
  simp only [List.reverse_reverse, join, hparts, foldr_joinPart_letters]
  rfl

theorem foldl_max_le
    {m k : Nat} {depths : List Nat}
    (hk : k ≤ m)
    (h : ∀ d ∈ depths, d ≤ m) :
    depths.foldl max k ≤ m := by
  induction depths generalizing k with
  | nil =>
      exact hk
  | cons d depths ih =>
      obtain ⟨hd, hdepths⟩ := List.forall_mem_cons.1 h
      exact ih (Nat.max_le.2 ⟨hk, hd⟩) hdepths

theorem depthOf_le
    {m : Nat} {depths : List Nat}
    (h : ∀ d ∈ depths, d ≤ m) :
    depthOf depths ≤ m + 1 := by
  match depths with
  | [] =>
      exact Nat.zero_le _
  | [d] =>
      exact Nat.le_succ_of_le (h d List.mem_cons_self)
  | d :: e :: depths =>
      exact Nat.succ_le_succ (foldl_max_le (Nat.zero_le m) h)

theorem depth_wordRead
    (word : List Char) :
    (wordRead word).depth ≤ 1 := by
  apply depthOf_le
  intro d hd
  simp only [List.reverse_reverse, List.map_map, List.mem_map] at hd
  obtain ⟨c, _, rfl⟩ := hd
  exact Nat.le_refl 0

theorem le_foldl_parts
    (ps : List Pattern)
    (k : Nat) :
    k ≤ ps.foldl (fun n p => n + p.parts.length) k := by
  induction ps generalizing k with
  | nil =>
      exact Nat.le_refl k
  | cons p ps ih =>
      exact Nat.le_trans (Nat.le_add_right k _) (ih _)

/-- A choice between words of several letters each stays as it is. -/
theorem choose_texts
    {w v : List Char} {words : List (List Char)}
    (hw : w.length ≠ 1) :
    choose ((w :: v :: words).map text) = nestBranches ((w :: v :: words).map text) := by
  have hbranches : ((w :: v :: words).map text).flatMap branches =
      (w :: v :: words).map text := by
    rw [List.flatMap_map, List.map_eq_flatMap]
    rfl
  have hletter : ((w :: v :: words).map text).mapM letter? = none := by
    have hfirst : letter? (text w) = none := by
      match w, hw with
      | [], _ =>
          rfl
      | c :: d :: w, _ =>
          rfl
    simp [hfirst]
  have hset : ((w :: v :: words).map text).mapM set? = none := by
    rfl
  have hshared : sharedStart ((w :: v :: words).map text) = [] := by
    rfl
  obtain ⟨k, hk⟩ := Nat.exists_eq_add_of_le (le_foldl_parts
    (((w :: v :: words).map text).flatMap branches) 1)
  rw [choose, hk, Nat.add_comm, chooseWithin, hbranches]
  simp only [List.map_cons] at hletter hset hshared ⊢
  simp only [hletter, hset, hshared]

/-- The edge of a word is asked for in a group of its own. -/
theorem readGroup_edge
    (hrest : readRounds {} rest = some none) :
    readGroup (n + 4) (level + 1) {} groups part ("(?-u:\\b)".toList ++ rest)
      =
    readGroup (n + 3) (level + 1) {} groups
      (part.push ⟨look (.word .edge false), 1⟩) rest := by
  have hstart :
      readGroupStart {} ("?-u:\\b)".toList ++ rest)
        =
      some (.plain { unicode := false }, "\\b)".toList ++ rest) := by
    rfl
  have hinner :
      readGroup (n + 3) level { unicode := false } groups {} ("\\b)".toList ++ rest)
        =
      some ⟨⟨look (.word .edge false), 0⟩, groups, ')' :: rest⟩ := by
    rfl
  have htext : "(?-u:\\b)".toList ++ rest = '(' :: ("?-u:\\b)".toList ++ rest) := by
    rfl
  rw [htext, readGroup, skip_plain]
  simp only [hstart, hinner, readRepeats_none hrest]

/-- Words of several letters each, of which there are at least two. -/
structure IsWordList (words : List (List Char)) : Prop where
  letters : ∀ word ∈ words, ∀ c ∈ word, c.isAlpha = true
  lengths : ∀ word ∈ words, 1 < word.length
  several : 1 < words.length

theorem value_of_branches
    (h : part.branches ≠ []) :
    part.value
      =
    ⟨choose ((part.branch :: part.branches).reverse.map ReadPattern.pattern),
      depthOf ((part.branch :: part.branches).reverse.map ReadPattern.depth)⟩ := by
  unfold GroupPart.value
  split
  · next hnil =>
      exact absurd hnil h
  · rfl

/-- The branches of a list of words are the texts of the words. -/
theorem value_words
    {words : List (List Char)}
    (h : IsWordList words)
    (hne : words ≠ []) :
    let value := GroupPart.value ⟨(words.dropLast.map wordRead).reverse ++ [],
      ((words.getLast hne).map letterRead).reverse⟩
    value.pattern = nestBranches (words.map text) ∧ value.depth ≤ 2 := by
  have hbranches :
      (GroupPart.branch ⟨(words.dropLast.map wordRead).reverse ++ [],
          ((words.getLast hne).map letterRead).reverse⟩ ::
        ((words.dropLast.map wordRead).reverse ++ [])).reverse
        =
      words.map wordRead := by
    have hsplit :
        words.map wordRead
          =
        words.dropLast.map wordRead ++ [wordRead (words.getLast hne)] := by
      conv_lhs => rw [← List.dropLast_concat_getLast hne]
      rw [List.map_append]
      rfl
    rw [hsplit, List.append_nil, List.reverse_cons, List.reverse_reverse]
    rfl
  have hpatterns : (words.map wordRead).map ReadPattern.pattern = words.map text := by
    rw [List.map_map]
    apply List.map_congr_left
    intro word hword
    apply wordRead_eq
    have hlength := h.lengths word hword
    rintro rfl
    cases hlength
  obtain ⟨w, v, more, rfl⟩ : ∃ w v more, words = w :: v :: more := by
    match words, h.several with
    | w :: v :: more, _ =>
        exact ⟨w, v, more, rfl⟩
  intro value
  have hvalue :
      value
        =
      ⟨choose ((w :: v :: more).map text),
        depthOf (((w :: v :: more).map wordRead).map ReadPattern.depth)⟩ := by
    rw [← hpatterns, ← hbranches]
    apply value_of_branches
    simp
  have hfirst := h.lengths w List.mem_cons_self
  have hdepths : ∀ d ∈ ((w :: v :: more).map wordRead).map ReadPattern.depth, d ≤ 1 := by
    intro d hd
    obtain ⟨_, hread, rfl⟩ := List.mem_map.1 hd
    obtain ⟨word, _, rfl⟩ := List.mem_map.1 hread
    exact depth_wordRead word
  rw [hvalue]
  exact ⟨choose_texts (by omega), depthOf_le hdepths⟩

/-- The pattern of whole words, as it is read. -/
def wholeWordRead (words : List (List Char)) : Pattern :=
  seq (look (.word .edge false))
    (seq (group 1 (nestBranches (words.map text))) (look (.word .edge false)))

theorem readGroupStart_letter
    (hc : c.isAlpha = true)
    (rest : List Char) :
    readGroupStart {} (c :: rest) = some (.numbered none, c :: rest) := by
  have hne := not_sign_of_isAlpha hc
  simp only [groupSigns, List.mem_append, List.mem_cons, List.not_mem_nil, or_false,
    not_or] at hne
  unfold readGroupStart
  rw [skip_plain]
  simp only [List.cons.injEq, hne, false_and, imp_self, implies_true]

theorem readGroup_wholeWord
    {words : List (List Char)}
    (h : IsWordList words)
    (n level : Nat) (rest : List Char) :
    ∃ depth ≤ 5,
      readGroup (n + 22 + (['|'].intercalate words).length) (level + 1 + 1) {} {} {}
          ("(?-u:\\b)(".toList ++ (['|'].intercalate words ++ ")(?-u:\\b)".toList) ++
            ')' :: rest)
        =
      some ⟨⟨wholeWordRead words, depth⟩, ⟨1, []⟩, ')' :: rest⟩ := by
  have hne : words ≠ [] := by
    rintro rfl
    cases h.several
  obtain ⟨c, more, hmore, hc⟩ :
      ∃ c more, ['|'].intercalate words = c :: more ∧ c.isAlpha = true := by
    obtain ⟨word, words, rfl⟩ := List.exists_cons_of_ne_nil hne
    have hlength := h.lengths word List.mem_cons_self
    match word, hlength with
    | c :: word, _ =>
        have hc := h.letters _ List.mem_cons_self c List.mem_cons_self
        cases words with
        | nil =>
            exact ⟨c, word, List.intercalate_singleton, hc⟩
        | cons next words =>
            exact ⟨c, _, List.intercalate_cons_cons, hc⟩
  obtain ⟨hpattern, hdepth⟩ := value_words h hne
  let behind := "(?-u:\\b)".toList ++ ')' :: rest
  have htext :
      "(?-u:\\b)(".toList ++ (['|'].intercalate words ++ ")(?-u:\\b)".toList) ++
        ')' :: rest
        =
      "(?-u:\\b)".toList ++ '(' :: (['|'].intercalate words ++ ')' :: behind) := by
    simp [behind]
  have hstart :
      readGroupStart {} (['|'].intercalate words ++ ')' :: behind)
        =
      some (.numbered none, ['|'].intercalate words ++ ')' :: behind) := by
    rw [hmore]
    exact readGroupStart_letter hc _
  have hinner :=
    @readGroup_words (n + 19) (level + 1) ⟨1, []⟩ behind words [] h.letters hne
  have hfuel : ∀ k, n + 22 + k = n + 18 + k + 4 := by
    intro k
    omega
  have hfuel' : ∀ k, n + 18 + k + 2 = n + 19 + 1 + k := by
    intro k
    omega
  have hfuel'' : ∀ k, n + 19 + 1 + k = n + 16 + k + 4 := by
    intro k
    omega
  rw [htext, hfuel, readGroup_edge rfl, readGroup, skip_plain]
  simp only [hstart, Groups.add?, hfuel', Nat.zero_add, hinner]
  have hbehind : readRounds {} behind = some none := by
    rfl
  simp only [readRepeats_none hbehind, hpattern, behind, hfuel'']
  rw [readGroup_edge rfl]
  refine ⟨depthOf [1, _, 1], ?_, rfl⟩
  apply depthOf_le
  simp only [List.mem_cons, List.not_mem_nil, or_false, forall_eq_or_imp, forall_eq]
  omega

/-- The text of a rule that lists words is read as the pattern of the whole words behind
the start of the text. -/
theorem readRule?_words
    {words : List (List Char)}
    (h : IsWordList words) :
    readRule? ("(?-u:\\b)(".toList ++ (['|'].intercalate words ++ ")(?-u:\\b)".toList))
      =
    some (seq (look .textStart) (wholeWordRead words)) := by
  obtain ⟨depth, hdepth, hread⟩ := readGroup_wholeWord h 0 (maxDepth - 3) []
  generalize hcs :
    "(?-u:\\b)(".toList ++ (['|'].intercalate words ++ ")(?-u:\\b)".toList) = cs at hread ⊢
  have hlength :
      ("^(?:".toList ++ cs ++ [')']).length + 1
        =
      0 + 22 + (['|'].intercalate words).length + 1 + 1 := by
    simp [← hcs]
    omega
  have hplain :
      readGroupStart {} ('?' :: ':' :: (cs ++ [')'])) = some (.plain {}, cs ++ [')']) := by
    rfl
  have hstart : ∀ n, readGroup (n + 1 + 1) maxDepth {} {} {} ("^(?:".toList ++ cs ++ [')'])
      = readGroup (n + 1) (maxDepth - 1 + 1) {} {} ⟨[], [⟨look .textStart, 0⟩]⟩
          ('(' :: '?' :: ':' :: (cs ++ [')'])) := by
    intro n
    rfl
  have hend : ∀ k later (part : GroupPart),
      readGroup (0 + 22 + k) (maxDepth - 3 + 1 + 1 + 1) {} later part []
        =
      some ⟨part.value, later, []⟩ := by
    intro k later part
    rw [show 0 + 22 + k = 21 + k + 1 from by omega]
    rfl
  have hnone : readRounds {} [] = some none := by
    rfl
  rw [readRule?, read?, hlength, hstart, readGroup, skip_plain]
  simp only [hplain]
  rw [show maxDepth - 1 = maxDepth - 3 + 1 + 1 from rfl, hread]
  simp only [readRepeats_none hnone, hend]
  have hshallow : depthOf [0, depth + 1] ≤ 6 + 1 := by
    apply depthOf_le
    simp only [List.mem_cons, List.not_mem_nil, or_false, forall_eq_or_imp, forall_eq]
    omega
  exact if_pos (Nat.le_trans hshallow (by decide))

/-! ## The matcher -/

namespace Plain

/-- One of the patterns, the earlier ones preferred. -/
def anyOf : List Plain → Plain
  | [] => one .none
  | [p] => p
  | p :: q :: rest => alt p (anyOf (q :: rest))

def wordEdge : Plain :=
  look (.word .edge false)

/-- One of the words, and nothing of a longer word around it. -/
def wholeWord (words : List String) : Plain :=
  seq wordEdge (seq (anyOf (words.map fun w => ofText w.toList)) wordEdge)

theorem looseRuns_ofText
    (after : CharSet)
    (text : List Char) :
    (ofText text).looseRuns after = 0 := by
  match text with
  | [] =>
      rfl
  | [c] =>
      rfl
  | c :: d :: rest =>
      rw [ofText, looseRuns, looseRuns_ofText after (d :: rest)]
      rfl

theorem size_ofText
    {text : List Char}
    (hne : text ≠ []) :
    (ofText text).size + 1 = 2 * text.length := by
  match text with
  | [] =>
      exact absurd rfl hne
  | [c] =>
      rfl
  | c :: d :: rest =>
      have hrest := size_ofText (List.cons_ne_nil d rest)
      rw [ofText, size, size, List.length_cons]
      omega

theorem ways_ofText
    (text : List Char) :
    (ofText text).ways = 1 := by
  match text with
  | [] =>
      rfl
  | [c] =>
      rfl
  | c :: d :: rest =>
      rw [ofText, ways, ways_ofText (d :: rest)]
      rfl

/-- A choice between texts has no runs, one way for each text, and no more parts than its
texts have letters and ends. -/
theorem anyOf_texts
    (words : List (List Char))
    (hne : words ≠ [])
    (hwords : ∀ word ∈ words, word ≠ []) :
    (∀ after, (anyOf (words.map ofText)).looseRuns after = 0) ∧
      (anyOf (words.map ofText)).ways = words.length ∧
      (anyOf (words.map ofText)).size + 1 = 2 * words.flatten.length := by
  match words with
  | [] =>
      exact absurd rfl hne
  | [w] =>
      have hsize := size_ofText (hwords w (by simp))
      refine ⟨fun after => looseRuns_ofText after w, ways_ofText w, ?_⟩
      simpa [anyOf] using hsize
  | w :: v :: more =>
      obtain ⟨hloose, hways, hsize⟩ := anyOf_texts (v :: more) (List.cons_ne_nil v more)
        fun word hword => hwords word (List.mem_cons_of_mem _ hword)
      have hfirst := size_ofText (hwords w (by simp))
      simp only [List.map_cons] at hloose hways hsize ⊢
      refine ⟨?_, ?_, ?_⟩
      · intro after
        rw [anyOf, looseRuns, looseRuns_ofText, hloose]
        rfl
      · rw [anyOf, ways, ways_ofText, hways, List.length_cons (a := w)]
        omega
      · rw [anyOf, size, List.flatten_cons, List.length_append]
        omega

end Plain

theorem plain?_texts
    (words : List (List Char)) :
    (nestBranches (words.map text)).plain? = some (.anyOf (words.map .ofText)) := by
  match words with
  | [] =>
      rfl
  | [w] =>
      rfl
  | w :: v :: more =>
      have hmore := plain?_texts (v :: more)
      simp only [List.map_cons] at hmore ⊢
      rw [nestBranches, plain?, hmore]
      rfl

namespace Footprint

@[simp] theorem states_add
    (f g : Footprint) :
    (f + g).states = f.states + g.states := by
  rfl

@[simp] theorem extra_add
    (f g : Footprint) :
    (f + g).extra = f.extra + g.extra := by
  rfl

end Footprint

/-- A choice between texts has a state for each byte and two besides, and a way out for
each text. -/
theorem footprint_texts
    (d : Direction)
    (words : List (List Char)) :
    ((nestBranches (words.map text)).footprint d).states ≤
      Text.byteCount words.flatten + 2 ∧
      ((nestBranches (words.map text)).footprint d).extra ≤ 4 * words.length + 4 := by
  match words with
  | [] =>
      exact ⟨by simp [nestBranches, footprint, Footprint.ofSet, CharSet.none,
        CharSet.isAscii], Nat.zero_le _⟩
  | [w] =>
      exact ⟨by simp [nestBranches, footprint, Footprint.plain], Nat.zero_le _⟩
  | [w, v] =>
      simp [nestBranches, footprint, Footprint.plain, footprint.branchEnd]
  | w :: v :: u :: more =>
      obtain ⟨hstates, hextra⟩ := footprint_texts d (v :: u :: more)
      have hchoice :
          (nestBranches ((w :: v :: u :: more).map text)).footprint d
            =
          Footprint.plain (Text.byteCount w)
            + (nestBranches ((v :: u :: more).map text)).footprint d + ⟨0, 4⟩ +
              ⟨0, 0⟩ := by
        rfl
      rw [hchoice, List.flatten_cons, Text.byteCount_append, List.length_cons]
      simp only [Footprint.states_add, Footprint.extra_add, Footprint.plain]
      omega

theorem byteCount_le
    (cs : List Char) :
    Text.byteCount cs ≤ 4 * cs.length := by
  induction cs with
  | nil =>
      exact Nat.le_refl 0
  | cons c cs ih =>
      have hc := c.utf8Size_le_four
      rw [Text.byteCount_cons, List.length_cons]
      omega

/-- A list of words that is not too long makes a small automaton. -/
theorem fits_words
    {words : List (List Char)}
    (hcount : words.length ≤ 100)
    (hlength : words.flatten.length ≤ 500) :
    (seq (look .textStart) (wholeWordRead words)).fits = true := by
  have hbytes := byteCount_le words.flatten
  have hforward :
      (seq (look .textStart) (wholeWordRead words)).searchFootprint .forward
        =
      .plain 1 + (.plain 1 + (.plain 1 +
        ((nestBranches (words.map text)).footprint .forward + .plain 2 + .plain 1)))
          + .plain 3 := by
    rfl
  have hbackward : ∃ skip : Footprint,
      skip.states ≤ 3 ∧ skip.extra ≤ 16 ∧
        (seq (look .textStart) (wholeWordRead words)).searchFootprint .backward
          =
        skip + (.plain 1 + (.plain 1 +
          ((nestBranches (words.map text)).footprint .backward + .plain 1))) +
            .plain 1 := by
    refine ⟨_, ?_, ?_, rfl⟩
    · beta_reduce
      split <;> decide
    · beta_reduce
      split <;> decide
  obtain ⟨skip, hskipStates, hskipExtra, hbackward⟩ := hbackward
  obtain ⟨hstates, hextra⟩ := footprint_texts .forward words
  obtain ⟨hstates', hextra'⟩ := footprint_texts .backward words
  rw [fits, Bool.and_eq_true, decide_eq_true_eq, decide_eq_true_eq, hforward, hbackward]
  simp only [Footprint.bytes, Footprint.states_add, Footprint.extra_add,
    Footprint.plain, maxBytes]
  omega

theorem isCheap_words
    {words : List (List Char)}
    (h : IsWordList words)
    (hcount : words.length ≤ 100)
    (hlength : words.flatten.length ≤ 500) :
    (Plain.seq (.look .textStart) (.seq .wordEdge
      (.seq (.anyOf (words.map .ofText)) .wordEdge))).isCheap = true := by
  have hne : words ≠ [] := by
    rintro rfl
    cases h.several
  obtain ⟨hloose, hways, hsize⟩ := Plain.anyOf_texts words hne fun word hword => by
    have hlong := h.lengths word hword
    rintro rfl
    cases hlong
  simp only [Plain.isCheap, Plain.size, Plain.ways, Plain.looseRuns, Plain.wordEdge,
    hloose, hways, Bool.and_eq_true, decide_eq_true_eq]
  omega

/-- A list of words that is not too long is matched by walking over the text. -/
theorem ofPattern?_words
    {words : List (List Char)}
    (h : IsWordList words)
    (hcount : words.length ≤ 100)
    (hlength : words.flatten.length ≤ 500) :
    Matcher.ofPattern? (seq (look .textStart) (wholeWordRead words))
      =
    some ⟨.walk (.seq (.look .textStart) (.seq .wordEdge
      (.seq (.anyOf (words.map .ofText)) .wordEdge))), true⟩ := by
  have hplain :
      (seq (look .textStart) (wholeWordRead words)).plain?
        =
      some (.seq (.look .textStart) (.seq .wordEdge
        (.seq (.anyOf (words.map .ofText)) .wordEdge))) := by
    simp only [wholeWordRead, plain?, plain?_texts]
    rfl
  rw [Matcher.ofPattern?, if_pos (fits_words hcount hlength), Engine.ofPattern, hplain]
  simp only [isCheap_words h hcount hlength, if_true]
  rfl

end Pattern

end TableLexer
