import TableLexer.Proofs.Batch.Agreement

/-!
# Batches that stop at a failure

A batch that stops after a failure analyzes a beginning of its files.  One worker goes
as far as the first file that fails; several go on to the end of the chunk in which that
file lies.  So the files of one worker are the first of those of several, and fewer than
a chunk come behind them.

Whether a file fails depends neither on the time nor on the worker.  Hence one list,
`Batch.reached`, says which files a batch analyzes, whoever takes the turns
(`forall₂_reached`), and the rest is about beginnings of lists.
-/

namespace TableLexer

section UptoFirst

variable {α : Type}

/-- The elements up to the first one that passes the test, which is the last of them. -/
def uptoFirst (p : α → Bool) : List α → List α
  | [] => []
  | a :: rest => if p a then [a] else a :: uptoFirst p rest

/-- The second list is the beginning of the first one that ends with the first element to
pass the test, or all of it if none does. -/
inductive StopsAtFirst (p : α → Bool) : List α → List α → Prop
  | found
      {before after : List α} {a : α} :
      (∀ b ∈ before, p b = false) →
      p a = true →
      StopsAtFirst p (before ++ a :: after) (before ++ [a])
  | none
      {xs : List α} :
      (∀ a ∈ xs, p a = false) →
      StopsAtFirst p xs xs

variable {p : α → Bool}

theorem stopsAtFirst_uptoFirst
    (xs : List α) :
    StopsAtFirst p xs (uptoFirst p xs) := by
  induction xs with
  | nil =>
      exact .none (by simp)
  | cons a rest ih =>
      rw [uptoFirst]
      cases ha : p a with
      | true =>
          exact @StopsAtFirst.found _ p [] rest a (by simp) ha
      | false =>
          simp only [Bool.false_eq_true, if_false]
          generalize uptoFirst p rest = first at ih
          cases ih with
          | @found before after b hbefore hb =>
              exact @StopsAtFirst.found _ p (a :: before) after b
                (by simpa [ha] using hbefore) hb
          | none hrest =>
              exact .none (by simpa [ha] using hrest)

theorem uptoFirst_isPrefix
    (xs : List α) :
    uptoFirst p xs <+: xs := by
  induction xs with
  | nil =>
      exact List.prefix_rfl
  | cons a rest ih =>
      rw [uptoFirst]
      split
      · exact ⟨rest, rfl⟩
      · exact List.cons_prefix_cons.2 ⟨rfl, ih⟩

theorem uptoFirst_append_of_any
    {xs : List α}
    (h : xs.any p = true)
    (ys : List α) :
    uptoFirst p (xs ++ ys) = uptoFirst p xs := by
  induction xs with
  | nil =>
      cases h
  | cons a rest ih =>
      cases ha : p a with
      | true =>
          simp [uptoFirst, ha]
      | false =>
          rw [List.any_cons, ha, Bool.false_or] at h
          simp [uptoFirst, ha, ih h]

theorem uptoFirst_append_of_not_any
    {xs : List α}
    (h : xs.any p = false)
    (ys : List α) :
    uptoFirst p (xs ++ ys) = xs ++ uptoFirst p ys := by
  induction xs with
  | nil =>
      rfl
  | cons a rest ih =>
      rw [List.any_cons, Bool.or_eq_false_iff] at h
      simp [uptoFirst, h.1, ih h.2]

theorem uptoFirst_eq_self
    {xs : List α}
    (h : xs.any p = false) :
    uptoFirst p xs = xs := by
  have happend := uptoFirst_append_of_not_any h []
  rwa [List.append_nil, uptoFirst, List.append_nil] at happend

theorem length_uptoFirst_pos
    {xs : List α}
    (h : xs.any p = true) :
    0 < (uptoFirst p xs).length := by
  cases xs with
  | nil =>
      cases h
  | cons a rest =>
      rw [uptoFirst]
      split <;> simp

/-- Stopping behind a piece takes in what stopping within the piece does. -/
theorem uptoFirst_flatten_isPrefix
    (pieces : List (List α)) :
    uptoFirst p pieces.flatten <+:
      (uptoFirst (fun piece => piece.any p) pieces).flatten := by
  induction pieces with
  | nil =>
      exact List.prefix_rfl
  | cons piece rest ih =>
      rw [uptoFirst, List.flatten_cons]
      cases hpiece : piece.any p with
      | true =>
          rw [uptoFirst_append_of_any hpiece]
          simpa using uptoFirst_isPrefix piece
      | false =>
          rw [uptoFirst_append_of_not_any hpiece]
          simpa using ih

/-- Stopping behind a piece takes in less than one more piece. -/
theorem length_flatten_uptoFirst_lt
    {pieces : List (List α)} {size : Nat}
    (hpos : 0 < size)
    (hsize : ∀ piece ∈ pieces, piece.length ≤ size) :
    (uptoFirst (fun piece => piece.any p) pieces).flatten.length
      <
    (uptoFirst p pieces.flatten).length + size := by
  induction pieces with
  | nil =>
      simpa [uptoFirst] using hpos
  | cons piece rest ih =>
      rw [uptoFirst, List.flatten_cons]
      cases hpiece : piece.any p with
      | true =>
          have hshort := hsize piece List.mem_cons_self
          have hfound := length_uptoFirst_pos hpiece
          rw [uptoFirst_append_of_any hpiece]
          simp
          omega
      | false =>
          have hrest := ih fun other hother => hsize other (List.mem_cons_of_mem _ hother)
          rw [uptoFirst_append_of_not_any hpiece]
          simp at hrest ⊢
          omega

end UptoFirst

namespace Batch

/-! ## The files that a batch reaches -/

/-- The files that a batch analyzes if it stops after a failure. -/
def reached
    (config : BatchConfig)
    (fails : Path → Bool)
    (files : List Path) :
    List Path :=
  if config.workers = 1 ∨ files.length = 1 then
    uptoFirst fails files
  else
    (uptoFirst (fun chunk => chunk.any fails)
      (piecesOf (chunkSize files.length config.workers) files)).flatten

section Reached

variable {config : BatchConfig} {fails : Path → Bool} {files : List Path}

theorem uptoFirst_prefix_reached :
    uptoFirst fails files <+: reached config fails files := by
  unfold reached
  split
  · exact List.prefix_rfl
  · have hprefix :=
      @uptoFirst_flatten_isPrefix _ fails
        (piecesOf (chunkSize files.length config.workers) files)
    rwa [flatten_piecesOf] at hprefix

theorem reached_isPrefix :
    reached config fails files <+: files := by
  unfold reached
  split
  · exact uptoFirst_isPrefix files
  · obtain ⟨others, hothers⟩ :=
      @uptoFirst_isPrefix _ (fun chunk : List Path => chunk.any fails)
      (piecesOf (chunkSize files.length config.workers) files)
    refine ⟨others.flatten, ?_⟩
    rw [← List.flatten_append, hothers, flatten_piecesOf]

theorem length_reached_lt :
    (reached config fails files).length
      <
    (uptoFirst fails files).length + chunkSize files.length config.workers := by
  have hpos := (chunkSize_bounds files.length config.workers).1
  unfold reached
  split
  · omega
  · have hlength := @length_flatten_uptoFirst_lt _ fails
      (piecesOf (chunkSize files.length config.workers) files) _ hpos ?_
    · rwa [flatten_piecesOf] at hlength
    · intro piece hpiece
      have hle := length_le_of_mem_piecesOf _ hpiece
      omega

theorem reached_eq_self
    (h : ∀ q ∈ files, fails q = false) :
    reached config fails files = files := by
  have hnone : files.any fails = false := by simpa using h
  apply reached_isPrefix.eq_of_length_le
  have hle := (@uptoFirst_prefix_reached config fails files).length_le
  rwa [uptoFirst_eq_self hnone] at hle

end Reached

/-! ## The outcomes of a batch that stops -/

section Outcomes

variable {analyze : Path → Logged Outcome} {fails : Path → Bool}

theorem any_isFailure_eq
    (hfails : ∀ q o, OutcomeOf analyze q o → o.isFailure = fails q)
    {files : List Path} {os : List Outcome}
    (h : List.Forall₂ (OutcomeOf analyze) files os) :
    os.any Outcome.isFailure = files.any fails := by
  induction h with
  | nil =>
      rfl
  | cons ho _ ih =>
      rw [List.any_cons, List.any_cons, hfails _ _ ho, ih]

theorem forall₂_uptoFirst
    (hfails : ∀ q o, OutcomeOf analyze q o → o.isFailure = fails q)
    {files : List Path} {os : List Outcome}
    (h : InOrderMayReport true analyze files os) :
    List.Forall₂ (OutcomeOf analyze) (uptoFirst fails files) os := by
  induction h with
  | none =>
      exact List.Forall₂.nil
  | stop ho hstop =>
      rw [hfails _ _ ho, Bool.and_true] at hstop
      rw [uptoFirst, if_pos hstop]
      exact List.Forall₂.cons ho List.Forall₂.nil
  | next ho hnext _ ih =>
      rw [hfails _ _ ho, Bool.and_true] at hnext
      rw [uptoFirst, if_neg (by simp [hnext])]
      exact List.Forall₂.cons ho ih

theorem forall₂_flatten_uptoFirst
    (hfails : ∀ q o, OutcomeOf analyze q o → o.isFailure = fails q)
    {workers : Nat} {chunks : List (List Path)} {os : List Outcome}
    (h : ChunksMayReport true workers analyze chunks os) :
    List.Forall₂ (OutcomeOf analyze)
      (uptoFirst (fun chunk => chunk.any fails) chunks).flatten os := by
  induction h with
  | none =>
      exact List.Forall₂.nil
  | stop hchunk hstop =>
      have houtcomes := forall₂_of_chunkMayReport hchunk
      rw [any_isFailure_eq hfails houtcomes, Bool.true_and] at hstop
      rw [uptoFirst, if_pos hstop]
      simpa using houtcomes
  | next hchunk hnext _ ih =>
      have houtcomes := forall₂_of_chunkMayReport hchunk
      rw [any_isFailure_eq hfails houtcomes, Bool.true_and] at hnext
      rw [uptoFirst, if_neg (by simp [hnext]), List.flatten_cons]
      exact List.rel_append houtcomes ih

/-- A batch that stops after a failure has one outcome for each of the files that it
reaches, in their order. -/
theorem forall₂_reached
    (hfails : ∀ q o, OutcomeOf analyze q o → o.isFailure = fails q)
    {config : BatchConfig} {files : List Path} {os : List Outcome}
    (hon : config.failFast = true)
    (h : MayReport config analyze files os) :
    List.Forall₂ (OutcomeOf analyze) (reached config fails files) os := by
  unfold MayReport at h
  unfold reached
  rw [hon] at h
  split at h
  · rename_i halone
    rw [if_pos halone]
    exact forall₂_uptoFirst hfails h
  · rename_i hseveral
    rw [if_neg hseveral]
    exact forall₂_flatten_uptoFirst hfails h

end Outcomes

/-! ## The results of a directory -/

section Results

variable (pipeline : Pipeline) (root : FileTree) (language : Option Language)
  (scope : Scope)

/-- The file has no analysis. -/
def fails
    (q : Path) :
    Bool :=
  Outcome.isFailure ⟨q, (pipeline.analyzeFile root q language).value scope⟩

/-- The results are those of the files in their order, up to the times of the analyses. -/
structure ResultsOf
    (files : List Path)
    (results : BatchResults) :
    Prop where
  successes :
    results.successes.map (fun s => (s.1, s.2.undated))
      =
    files.filterMap fun q =>
      match (pipeline.analyzeFile root q language).value scope with
      | .ok a => some (q, a.undated)
      | .error _ => none
  failures :
    results.failures
      =
    files.filterMap fun q =>
      match (pipeline.analyzeFile root q language).value scope with
      | .ok _ => none
      | .error e => some (q, e)
  paths : (results.successes.map Prod.fst ++ results.failures.map Prod.fst).Perm files
  processed : results.processed = files.length

variable {pipeline root scope}
variable {config : BatchConfig} {p : Path} {files : List Path}
variable {given : Except BatchError BatchResults}

theorem resultsOf_ofOutcomes
    {os : List Outcome}
    (h : List.Forall₂ (OutcomeOf (analyzeOne config pipeline root)) files os)
    (discovered : Nat) :
    ResultsOf pipeline root config.language scope files (.ofOutcomes discovered os) := by
  have hpaths := paths_perm os
  rw [path_eq h] at hpaths
  have hlength := hpaths.length_eq
  rw [List.length_append, List.length_map, List.length_map] at hlength
  exact ⟨successes_eq scope h, failures_eq scope h, hpaths, hlength⟩

/-- Whether a file fails does not depend on the time. -/
theorem isFailure_eq_fails
    {q : Path} {o : Outcome}
    (h : OutcomeOf (analyzeOne config pipeline root) q o) :
    o.isFailure = fails pipeline root config.language scope q := by
  obtain ⟨scope', rfl⟩ := h
  have hsame := pipeline.undated_analyzeFile root q config.language scope' scope
  change Outcome.isFailure ⟨q, (pipeline.analyzeFile root q config.language).value scope'⟩
    = Outcome.isFailure ⟨q, (pipeline.analyzeFile root q config.language).value scope⟩
  generalize (pipeline.analyzeFile root q config.language).value scope' = now at hsame ⊢
  generalize (pipeline.analyzeFile root q config.language).value scope = once at hsame ⊢
  cases now <;> cases once <;> first | rfl | cases hsame

theorem MayGive.exists_report
    (h : MayGive config pipeline root p given)
    (hfiles : (Discovery.discover config root p).value scope = .ok files) :
    ∃ os,
      MayReport config (analyzeOne config pipeline root) files os ∧
      given = .ok (.ofOutcomes files.length os) := by
  obtain ⟨scope', hgiven⟩ := h
  rw [Discovery.timeless_discover config root p scope' scope, hfiles] at hgiven
  exact hgiven

/-- A batch that does not stop gives the results of all its files. -/
theorem MayGive.resultsOf_files
    (h : MayGive config pipeline root p given)
    (hoff : config.failFast = false)
    (hfiles : (Discovery.discover config root p).value scope = .ok files) :
    ∃ results,
      given = .ok results ∧
      ResultsOf pipeline root config.language scope files results ∧
      results.discovered = files.length := by
  obtain ⟨os, hos, rfl⟩ := h.exists_report hfiles
  exact ⟨_, rfl, resultsOf_ofOutcomes (forall₂_of_mayReport hoff hos) _, rfl⟩

/-- A batch that stops after a failure gives the results of the files that it reaches. -/
theorem MayGive.resultsOf_reached
    (h : MayGive config pipeline root p given)
    (hon : config.failFast = true)
    (hfiles : (Discovery.discover config root p).value scope = .ok files) :
    ∃ results,
      given = .ok results ∧
      ResultsOf pipeline root config.language scope
        (reached config (fails pipeline root config.language scope) files) results ∧
      results.discovered = files.length := by
  obtain ⟨os, hos, rfl⟩ := h.exists_report hfiles
  have hfails : ∀ q o, OutcomeOf (analyzeOne config pipeline root) q o →
      o.isFailure = fails pipeline root config.language scope q :=
    fun _ _ => isFailure_eq_fails
  exact ⟨_, rfl, resultsOf_ofOutcomes (forall₂_reached hfails hon hos) _, rfl⟩

/-- The results of the first files are the first results. -/
theorem ResultsOf.isPrefix
    {firsts : List Path} {first results : BatchResults}
    (hfirst : ResultsOf pipeline root language scope firsts first)
    (hresults : ResultsOf pipeline root language scope files results)
    (h : firsts <+: files) :
    first.successes.map (fun s => (s.1, s.2.undated))
        <+: results.successes.map (fun s => (s.1, s.2.undated)) ∧
      first.failures <+: results.failures := by
  rw [hfirst.successes, hfirst.failures, hresults.successes, hresults.failures]
  exact ⟨h.filterMap _, h.filterMap _⟩

end Results

/--
Stopping at a failure.  Let a batch that stops after a failure discover some files, of
which some fail.  One worker analyzes the files up to the first that fails, or all if
none does.  Any number of workers, taking turns in any order and at any times, give the
results of a beginning of the files: it has the files of one worker at its head and
fewer than a chunk behind them, which is at most 49 files.  So the successes and the
failures of one worker are the first ones of several.  If no file fails, the results
are those of a batch that does not stop.
-/
theorem directory_stops_at_failure
    (config : BatchConfig)
    (hon : config.failFast = true)
    (pipeline : Pipeline) (root : FileTree) (p : Path)
    (scope : Scope) {files : List Path}
    (hfiles : (Discovery.discover config root p).value scope = .ok files) :
    ∃ first,
      StopsAtFirst (fails pipeline root config.language scope) files first ∧
      ∀ threads : Nat,
        let batch := { config with threads := threads }
        MayGive batch pipeline root p
          ((analyzeDirectory batch pipeline root p).value scope) ∧
        ∃ processed,
          processed <+: files ∧
          first <+: processed ∧
          (batch.workers = 1 ∨ files.length = 1 → processed = first) ∧
          processed.length < first.length + chunkSize files.length batch.workers ∧
          processed.length ≤ first.length + 49 ∧
          ∀ given, MayGive batch pipeline root p given →
            ∃ results,
              given = .ok results ∧
              ResultsOf pipeline root config.language scope processed results ∧
              results.discovered = files.length ∧
              (∀ one alone,
                BatchConfig.workers { config with threads := one } = 1 →
                MayGive { config with threads := one } pipeline root p (.ok alone) →
                alone.successes.map (fun s => (s.1, s.2.undated))
                    <+: results.successes.map (fun s => (s.1, s.2.undated)) ∧
                  alone.failures <+: results.failures) ∧
              ((∀ q ∈ files, fails pipeline root config.language scope q = false) →
                ∀ others whole,
                  MayGive { config with threads := others, failFast := false }
                    pipeline root p (.ok whole) →
                  results.successes.map (fun s => (s.1, s.2.undated))
                      = whole.successes.map (fun s => (s.1, s.2.undated)) ∧
                    results.failures = whole.failures ∧
                    results.discovered = whole.discovered) := by
  let failing := fails pipeline root config.language scope
  have hgives : ∀ threads given,
      MayGive { config with threads := threads } pipeline root p given →
      ∃ results,
        given = .ok results ∧
        ResultsOf pipeline root config.language scope
          (reached { config with threads := threads } failing files) results ∧
        results.discovered = files.length :=
    fun _ _ h => h.resultsOf_reached hon hfiles
  refine ⟨uptoFirst failing files, stopsAtFirst_uptoFirst files, ?_⟩
  intro threads batch
  have hchunk := chunkSize_bounds files.length batch.workers
  have hlength := @length_reached_lt batch failing files
  refine ⟨mayGive_analyzeDirectory batch pipeline root p scope,
    reached batch failing files, reached_isPrefix, uptoFirst_prefix_reached, ?_,
    hlength, ?_, ?_⟩
  · intro halone
    exact if_pos halone
  · unfold maxChunk at hchunk
    omega
  · intro given hgiven
    obtain ⟨results, rfl, hresults, hdiscovered⟩ := hgives threads given hgiven
    refine ⟨results, rfl, hresults, hdiscovered, ?_, ?_⟩
    · intro one alone hone halone
      obtain ⟨_, heq, hfirst, _⟩ := hgives one _ halone
      cases heq
      rw [reached, if_pos (Or.inl hone)] at hfirst
      exact hfirst.isPrefix config.language hresults uptoFirst_prefix_reached
    · intro hnone others whole hwhole
      obtain ⟨_, heq, hall, hwholeDiscovered⟩ := hwhole.resultsOf_files rfl hfiles
      cases heq
      rw [reached_eq_self hnone] at hresults
      exact ⟨hresults.successes.trans hall.successes.symm,
        hresults.failures.trans hall.failures.symm,
        hdiscovered.trans hwholeDiscovered.symm⟩

/-- Of three files the first one is not text: two workers analyze the second file too. -/
theorem directory_stops_at_bad_text :
    let config : BatchConfig := { threads := 2, failFast := true }
    let pipeline : Pipeline := ⟨⟨true, true⟩, ⟨true⟩⟩
    let root : FileTree :=
      .folder [("a.c", .file ⟨#[0xff]⟩), ("b.c", .file ⟨#[]⟩), ("c.c", .file ⟨#[]⟩)]
    config.failFast = true ∧
    (Discovery.discover config root ⟨"."⟩).value ⟨.epoch, none⟩
      = .ok [⟨"./a.c"⟩, ⟨"./b.c"⟩, ⟨"./c.c"⟩] ∧
    fails pipeline root none ⟨.epoch, none⟩ ⟨"./a.c"⟩ = true ∧
    ∃ first,
      StopsAtFirst (fails pipeline root none ⟨.epoch, none⟩)
        [⟨"./a.c"⟩, ⟨"./b.c"⟩, ⟨"./c.c"⟩] first ∧
      ∀ results, MayGive config pipeline root ⟨"."⟩ (.ok results) →
        first.length ≤ results.processed ∧ results.processed < first.length + 2 := by
  intro config pipeline root
  have hfiles :
      (Discovery.discover config root ⟨"."⟩).value ⟨.epoch, none⟩
        =
      .ok [⟨"./a.c"⟩, ⟨"./b.c"⟩, ⟨"./c.c"⟩] := by
    decide +kernel
  obtain ⟨first, hfirst, hthreads⟩ :=
    directory_stops_at_failure config rfl pipeline root ⟨"."⟩ ⟨.epoch, none⟩ hfiles
  obtain ⟨_, processed, _, hhead, _, hlength, _, hgiven⟩ := hthreads 2
  refine ⟨rfl, hfiles, by decide +kernel, first, hfirst, ?_⟩
  intro results hresults
  obtain ⟨_, heq, hof, _⟩ := hgiven _ hresults
  cases heq
  have hchunk : chunkSize 3 config.workers = 2 := by
    decide
  rw [hof.processed]
  rw [← hchunk]
  exact ⟨hhead.length_le, hlength⟩

end Batch
end TableLexer
