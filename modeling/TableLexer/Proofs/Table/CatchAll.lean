import TableLexer.Proofs.Builtin.Patterns
import TableLexer.Proofs.Scan.Account

/-!
# Catch-all rules

A scan skips nothing exactly if, at every place of every source, some rule of its
table takes a text (`Table.Covers`).  The check of a table is weaker: it tries the
last rule on a few characters, each one alone.  A table that passes it skips a
character only where that character is no probe, or where more text follows.

A table whose last rule is declared for any single character covers everything, and
that is how every built-in table ends.
-/

namespace TableLexer

namespace Rule

theorem takesChar_iff
    {r : Rule} {c : Char} :
    r.takesChar c = true ↔ r.matchText? [c] = some [c] := by
  simp [takesChar]

/-- The matcher of a rule is the one that its declared pattern is read as. -/
theorem matcher_of_declaration
    {d : Declaration} {r : Rule} {kind : Kind} {m : Pattern.Matcher}
    (hrule : ofDeclaration? d = some r)
    (hread : Table.readMatcher? d = some (kind, m)) :
    r.matcher = m := by
  have heq := Table.readMatcher?_eq d
  rw [hrule, hread] at heq
  cases heq
  rfl

/-- The rule for any single character asks for no property. -/
theorem ofDeclaration?_catchAll
    (kind : Kind)
    (properties : Pattern.PropertyClasses) :
    ofDeclaration? ⟨kind, Table.catchAllPattern⟩ properties
      =
    ofDeclaration? ⟨kind, Table.catchAllPattern⟩ := by
  have hread :
      Pattern.readRule? Table.catchAllPattern.toList properties
        =
      Pattern.readRule? Table.catchAllPattern.toList := by
    rfl
  rw [ofDeclaration?, ofDeclaration?, hread]

/-- The rule for any single character takes the next one, whatever follows. -/
theorem matchText?_catchAll
    {kind : Kind} {r : Rule} {properties : Pattern.PropertyClasses}
    (h : ofDeclaration? ⟨kind, Table.catchAllPattern⟩ properties = some r)
    (c : Char) (rest : List Char) :
    r.matchText? (c :: rest) = some [c] := by
  rw [ofDeclaration?_catchAll] at h
  have hread :
      Table.readMatcher? ⟨kind, Table.catchAllPattern⟩
        =
      some (kind, Table.walking (.one .all)) := by
    cases kind <;> decide +kernel
  have hmatch := Table.matchChars?_of_walking (matcher_of_declaration h hread) (c :: rest)
  rw [Pattern.Plain.chars?_one, if_pos (Pattern.CharSet.contains_all c)] at hmatch
  rw [matchText?, hmatch]
  rfl

end Rule

namespace Table

variable {t : Table} {source : List Char} {spans : List Span}

/-- A table passes the check exactly if it has a last rule that takes each probe
alone. -/
theorem check_eq_ok_iff :
    t.check = .ok ()
      ↔
    ∃ earlier last,
      t.rules = earlier ++ [last] ∧
      ∀ c ∈ probes, last.matchText? [c] = some [c] := by
  unfold check
  constructor
  · intro h
    split at h
    · cases h
    · next last hlast =>
        split at h
        · next hprobes =>
            obtain ⟨earlier, hrules⟩ := List.getLast?_eq_some_iff.1 hlast
            refine ⟨earlier, last, hrules, ?_⟩
            intro c hc
            exact Rule.takesChar_iff.1 (List.all_eq_true.1 hprobes c hc)
        · cases h
  · rintro ⟨earlier, last, hrules, hprobes⟩
    have hall : probes.all last.takesChar = true := by
      rw [List.all_eq_true]
      intro c hc
      exact Rule.takesChar_iff.2 (hprobes c hc)
    have hlast : t.rules.getLast? = some last := by
      rw [hrules, List.getLast?_concat]
    rw [hlast]
    exact if_pos hall

/-- The table finds a match at the head of every source that is not empty. -/
def Covers (t : Table) : Prop :=
  ∀ c rest, t.findMatch (c :: rest) ≠ none

theorem covers_iff :
    t.Covers ↔ ∀ c rest, ∃ r ∈ t.rules, (r.matchText? (c :: rest)).isSome := by
  unfold Covers
  simp only [ne_eq, findMatch_eq_none_iff, not_forall, exists_prop,
    Option.isSome_iff_ne_none]

theorem covers_builtin
    (l : Language) :
    (builtin l).Covers :=
  findMatch_builtin_ne_none l

theorem Segmentation.not_skipped_of_covers
    (h : t.Segmentation source spans)
    (hcovers : t.Covers) :
    ∀ s ∈ spans, ¬ s.isSkipped = true := by
  induction h with
  | nil =>
      intro s hs
      cases hs
  | taken _ _ ih =>
      intro s hs
      rcases List.mem_cons.1 hs with rfl | hs
      · simp [Span.isSkipped]
      · exact ih s hs
  | skipped hnone _ _ =>
      exact absurd hnone (hcovers _ _)

/-- Without a skipped span, none are counted and they have no bytes. -/
theorem ofSpans_of_not_skipped
    (h : ∀ s ∈ spans, ¬ s.isSkipped = true) :
    (ScanMetrics.ofSpans spans).skipped = 0 ∧
      (ScanMetrics.ofSpans spans).skippedBytes = 0 := by
  have hfilter : spans.filter Span.isSkipped = [] := List.filter_eq_nil_iff.2 h
  constructor
  · exact List.countP_eq_zero.2 h
  · simp [ScanMetrics.ofSpans, ScanMetrics.bytesOf, hfilter]

/-- Scans skip nothing exactly if the table covers every source. -/
theorem skips_nothing_iff
    (t : Table) :
    (∀ settings source,
      (t.scan settings source).metrics.skipped = 0 ∧
      (t.scan settings source).metrics.skippedBytes = 0)
      ↔
    t.Covers := by
  constructor
  · intro h c rest hnone
    obtain ⟨spans, hrest⟩ := Segmentation.exists_spans t rest
    have hspans : t.Segmentation (String.ofList (c :: rest)).toList
        (⟨none, [c]⟩ :: spans) := by
      rw [String.toList_ofList]
      exact .skipped hnone hrest
    have hskipped := (h ⟨false, false⟩ (.ofList (c :: rest))).1
    rw [scan_eq_account ⟨false, false⟩ hspans] at hskipped
    exact List.countP_eq_zero.1 hskipped ⟨none, [c]⟩ List.mem_cons_self rfl
  · intro hcovers settings source
    obtain ⟨spans, hspans⟩ := Segmentation.exists_spans t source.toList
    rw [scan_eq_account settings hspans]
    exact ofSpans_of_not_skipped (hspans.not_skipped_of_covers hcovers)

/-- A table whose last rule is declared for any single character covers every source. -/
theorem covers_of_catchAll
    {earlier : List Rule} {last : Rule} {kind : Kind}
    {properties : Pattern.PropertyClasses}
    (hrules : t.rules = earlier ++ [last])
    (hlast : Rule.ofDeclaration? ⟨kind, catchAllPattern⟩ properties = some last) :
    t.Covers := by
  rw [covers_iff]
  intro c rest
  refine ⟨last, ?_, ?_⟩
  · rw [hrules]
    exact List.mem_append_right _ List.mem_cons_self
  · rw [Rule.matchText?_catchAll hlast]
    rfl

/--
What the check of a table is worth.  The last rule takes each probe alone, so a scan
skips a character only where it is no probe or where more text follows.  That scans
skip nothing at all is more: it holds exactly if some rule takes a text at the head of
every source that is not empty.  It does hold if the last rule is declared for any
single character.
-/
theorem check_promises
    (t : Table)
    (h : t.check = .ok ()) :
    ∃ earlier last,
      t.rules = earlier ++ [last] ∧
      (∀ c ∈ probes, last.matchText? [c] = some [c]) ∧
      (∀ source before s after,
        t.Segmentation source (before ++ s :: after) →
        s.isSkipped = true →
        ∃ c, s.text = [c] ∧ (c ∉ probes ∨ after ≠ [])) ∧
      ((∀ settings source,
        (t.scan settings source).metrics.skipped = 0 ∧
        (t.scan settings source).metrics.skippedBytes = 0)
          ↔
        ∀ c rest, ∃ r ∈ t.rules, (r.matchText? (c :: rest)).isSome) ∧
      ∀ kind properties,
        Rule.ofDeclaration? ⟨kind, catchAllPattern⟩ properties = some last →
        (∀ c rest, last.matchText? (c :: rest) = some [c]) ∧
        ∀ settings source,
          (t.scan settings source).metrics.skipped = 0 ∧
          (t.scan settings source).metrics.skippedBytes = 0 := by
  obtain ⟨earlier, last, hrules, hprobes⟩ := check_eq_ok_iff.1 h
  refine ⟨earlier, last, hrules, hprobes, ?_, (skips_nothing_iff t).trans covers_iff, ?_⟩
  · intro source before s after hsegmentation hskipped
    have hrest := hsegmentation.of_append
    generalize Span.joined (s :: after) = input at hrest
    cases hrest with
    | taken =>
        cases hskipped
    | @skipped c rest _ hnone hafter =>
        refine ⟨c, rfl, ?_⟩
        -- At the end of the source a skipped probe would stand alone, and the last rule
        -- takes it.
        by_contra hprobe
        obtain ⟨hc, rfl⟩ : c ∈ probes ∧ after = [] := by
          simpa [not_or] using hprobe
        have hend : rest = [] := hafter.joined_eq.symm
        have hlast : last ∈ t.rules := by
          rw [hrules]
          exact List.mem_append_right _ List.mem_cons_self
        have huntaken := findMatch_eq_none_iff.1 hnone last hlast
        rw [hend, hprobes c hc] at huntaken
        cases huntaken
  · intro kind properties hlast
    refine ⟨Rule.matchText?_catchAll hlast, ?_⟩
    exact (skips_nothing_iff t).2 (covers_of_catchAll hrules hlast)

/-- For a table with one rule besides the catch-all. -/
theorem check_promises_digits :
    ∃ t, ofDeclarations .c [⟨.number, "[0-9]+"⟩, unknownRule] = .ok t ∧
      t.check = .ok () ∧
      ∀ settings source, (t.scan settings source).metrics.skipped = 0 := by
  have hcheck :
      (compileLenient .c [⟨.number, "[0-9]+"⟩, unknownRule]).1.check = .ok () := by
    decide +kernel
  obtain ⟨earlier, last, hrules, _, _, _, hcatchAll⟩ := check_promises _ hcheck
  have hlast : Rule.ofDeclaration? ⟨.unknown, catchAllPattern⟩ = some last := by
    have hcompiled :
        (compileLenient .c [⟨.number, "[0-9]+"⟩, unknownRule]).1.rules.getLast?
          =
        Rule.ofDeclaration? ⟨.unknown, catchAllPattern⟩ := by
      decide +kernel
    rw [← hcompiled, hrules, List.getLast?_concat]
  refine ⟨_, ?_, hcheck, ?_⟩
  · decide +kernel
  · intro settings source
    exact ((hcatchAll .unknown .held hlast).2 settings source).1

/-- The check is not sound: a class of the probes passes it, and a scan with that table
skips any other letter. -/
theorem check_passes_probe_class :
    ∃ t, ofDeclarations .c [⟨.unknown, "[a0 \\n\\t\"€<]"⟩] = .ok t ∧
      t.check = .ok () ∧
      (t.scan ⟨false, false⟩ "b").metrics.skipped = 1 ∧
      (t.scan ⟨false, false⟩ "b").metrics.skippedBytes = 1 := by
  refine ⟨(compileLenient .c [⟨.unknown, "[a0 \\n\\t\"€<]"⟩]).1, ?_, ?_, ?_, ?_⟩
  · decide +kernel
  · decide +kernel
  · decide +kernel
  · decide +kernel

end Table
end TableLexer
