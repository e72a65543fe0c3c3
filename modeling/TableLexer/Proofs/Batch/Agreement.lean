import TableLexer.Proofs.Batch.Workers

/-!
# Batches agree

The analysis of a file depends on the time only in its timestamp, and what is
discovered depends on neither the time nor the number of workers.  So with any number
of workers, and in whatever order these take turns, a batch that does not stop after a
failure gives the same analyses, up to their timestamps, and the same errors: those of
the discovered files, each at its place.
-/

namespace TableLexer

/-- The analysis without its time. -/
def Analysis.undated (a : Analysis) : Analysis :=
  { a with timestamp := .epoch }

namespace Logged

variable {α β : Type}

/-- The answer depends on neither the time nor the file at hand. -/
def Timeless (x : Logged α) : Prop :=
  ∀ scope scope', x.value scope = x.value scope'

theorem timeless_pure
    (a : α) :
    Timeless (Pure.pure a) := by
  intro scope scope'
  rfl

theorem timeless_unit
    (x : Logged Unit) :
    Timeless x := by
  intro scope scope'
  rfl

theorem Timeless.bind
    {x : Logged α} {f : α → Logged β}
    (hx : Timeless x)
    (hf : ∀ a, Timeless (f a)) :
    Timeless (x >>= f) := by
  intro scope scope'
  rw [value_bind, value_bind, hx scope scope']
  exact hf _ scope scope'

theorem timeless_then
    (x : Logged Unit) (a : α) :
    Timeless (x >>= fun _ => Pure.pure a) :=
  (timeless_unit x).bind fun _ => timeless_pure a

theorem timeless_ite
    {c : Prop} [Decidable c]
    {x y : Logged α}
    (hx : Timeless x) (hy : Timeless y) :
    Timeless (if c then x else y) := by
  split
  · exact hx
  · exact hy

end Logged

open Logged

namespace Outcome

/-- The outcome without the time of its analysis. -/
def undated (o : Outcome) : Outcome :=
  ⟨o.path, o.result.map Analysis.undated⟩

theorem success?_undated
    (o : Outcome) :
    o.undated.success? = o.success?.map fun s => (s.1, s.2.undated) := by
  obtain ⟨q, result⟩ := o
  cases result <;> rfl

theorem failure?_undated
    (o : Outcome) :
    o.undated.failure? = o.failure? := by
  obtain ⟨q, result⟩ := o
  cases result <;> rfl

end Outcome

theorem SourceFile.timeless_refuse
    {α : Type}
    (p : Path) (e : SourceError) (text : String)
    (pairs : List (String × String)) :
    Timeless (refuse (α := α) p e text pairs) :=
  timeless_then _ _

theorem SourceFile.timeless_load
    (intake : Intake) (root : FileTree) (p : Path) :
    Timeless (load intake root p) := by
  unfold load
  refine (timeless_unit _).bind fun _ => ?_
  cases contentOf root p with
  | error e =>
      exact timeless_refuse p e _ _
  | ok content =>
      simp only
      split
      · exact timeless_refuse p _ _ _
      · split
        · exact timeless_refuse p _ _ _
        · cases String.fromUTF8? content with
          | none =>
              exact timeless_refuse p _ _ _
          | some source =>
              exact timeless_then _ _

theorem Discovery.timeless_discover
    (config : BatchConfig) (root : FileTree) (p : Path) :
    Timeless (discover config root p) := by
  unfold discover
  refine (timeless_unit _).bind fun _ => ?_
  cases folder? root p with
  | none =>
      exact timeless_then _ _
  | some t =>
      simp only
      exact timeless_ite
        ((timeless_unit _).bind fun _ =>
          timeless_ite (timeless_then _ _) (timeless_then _ _))
        (timeless_ite (timeless_then _ _) (timeless_then _ _))

namespace Pipeline

/-- An analysis holds the time of its own making. -/
theorem value_analyzeSource
    (pipeline : Pipeline)
    (source : String) (l : Language)
    (scope : Scope) :
    (pipeline.analyzeSource source l).value scope
      =
    let output := (Table.builtin l).scan pipeline.scan source
    .ofTokens output.language scope.now source output.tokens := by
  have hscan :
      (scanLanguage pipeline.scan source l).value scope
        =
      (Table.builtin l).scan pipeline.scan source := by
    simp only [scanLanguage, Table.scanLogged, Logged.value_bind]
    split <;> split <;> rfl
  simp only [analyzeSource, Logged.value_bind, hscan]
  rfl

/-- Nothing but the timestamp of an analysis depends on the time. -/
theorem undated_analyzeFile
    (pipeline : Pipeline) (root : FileTree)
    (path : Path) (language : Option Language)
    (scope scope' : Scope) :
    ((pipeline.analyzeFile root path language).value scope).map Analysis.undated
      =
    ((pipeline.analyzeFile root path language).value scope').map Analysis.undated := by
  unfold analyzeFile
  rw [Logged.value_within, Logged.value_within]
  simp only [Logged.value_bind]
  rw [SourceFile.timeless_load _ _ _ { scope with file := some path.text }
    { scope' with file := some path.text }]
  cases (SourceFile.load (pipeline.intake language) root path).value
    { scope' with file := some path.text } with
  | error e =>
      rfl
  | ok f =>
      simp only
      unfold analyzeLoaded
      cases language.or f.language with
      | none =>
          rfl
      | some l =>
          simp only [Logged.value_bind, value_analyzeSource]
          rfl

end Pipeline

namespace Batch

/-- What the analysis of a directory can give, with its workers taking turns in any order
and at any times. -/
def MayGive
    (config : BatchConfig)
    (pipeline : Pipeline) (root : FileTree) (p : Path)
    (given : Except BatchError BatchResults) :
    Prop :=
  ∃ scope,
    match (Discovery.discover config root p).value scope with
    | .error e => given = .error e
    | .ok files => ∃ os,
        MayReport config (analyzeOne config pipeline root) files os ∧
        given = .ok (.ofOutcomes files.length os)

/-- What the run in order gives can be given. -/
theorem mayGive_analyzeDirectory
    (config : BatchConfig)
    (pipeline : Pipeline) (root : FileTree) (p : Path)
    (scope : Scope) :
    MayGive config pipeline root p
      ((analyzeDirectory config pipeline root p).value scope) := by
  refine ⟨scope, ?_⟩
  unfold analyzeDirectory
  rw [Logged.value_bind]
  cases (Discovery.discover config root p).value scope with
  | error e =>
      rfl
  | ok files =>
      exact ⟨_, mayReport_runFiles config files scope, rfl⟩

section Outcomes

variable {config : BatchConfig} {pipeline : Pipeline} {root : FileTree}
variable {files : List Path} {os : List Outcome}

/-- The outcomes of files differ from run to run in their times only. -/
theorem map_undated_eq
    (scope : Scope)
    (h : List.Forall₂ (OutcomeOf (analyzeOne config pipeline root)) files os) :
    os.map Outcome.undated
      =
    files.map fun q =>
      Outcome.undated ⟨q, (pipeline.analyzeFile root q config.language).value scope⟩ := by
  induction h with
  | nil =>
      rfl
  | @cons q o files os ho _ ih =>
      obtain ⟨scope', rfl⟩ := ho
      have hresult := pipeline.undated_analyzeFile root q config.language scope' scope
      rw [List.map_cons, List.map_cons, ih]
      congr 1
      exact congrArg (Outcome.mk q) hresult

theorem successes_eq
    (scope : Scope)
    (h : List.Forall₂ (OutcomeOf (analyzeOne config pipeline root)) files os) :
    (os.filterMap Outcome.success?).map (fun s => (s.1, s.2.undated))
      =
    files.filterMap fun q =>
      match (pipeline.analyzeFile root q config.language).value scope with
      | .ok a => some (q, a.undated)
      | .error _ => none := by
  have hmap := congrArg (List.filterMap Outcome.success?) (map_undated_eq scope h)
  rw [List.filterMap_map, List.filterMap_map] at hmap
  rw [List.map_filterMap]
  simp only [Function.comp_def, Outcome.success?_undated] at hmap
  rw [hmap]
  congr 1
  funext q
  cases hanswer : (pipeline.analyzeFile root q config.language).value scope <;>
    simp [Outcome.success?]

theorem failures_eq
    (scope : Scope)
    (h : List.Forall₂ (OutcomeOf (analyzeOne config pipeline root)) files os) :
    os.filterMap Outcome.failure?
      =
    files.filterMap fun q =>
      match (pipeline.analyzeFile root q config.language).value scope with
      | .ok _ => none
      | .error e => some (q, e) := by
  have hmap := congrArg (List.filterMap Outcome.failure?) (map_undated_eq scope h)
  rw [List.filterMap_map, List.filterMap_map] at hmap
  simp only [Function.comp_def, Outcome.failure?_undated] at hmap
  rw [hmap]
  rfl

end Outcomes

/-- Every outcome is either a success or a failure. -/
theorem paths_perm
    (os : List Outcome) :
    ((os.filterMap Outcome.success?).map Prod.fst
        ++ (os.filterMap Outcome.failure?).map Prod.fst).Perm
      (os.map Outcome.path) := by
  induction os with
  | nil =>
      exact List.Perm.refl _
  | cons o os ih =>
      obtain ⟨q, result⟩ := o
      cases result with
      | ok a =>
          exact List.Perm.cons q ih
      | error e =>
          exact List.perm_middle.trans (List.Perm.cons q ih)

theorem path_eq
    {config : BatchConfig} {pipeline : Pipeline} {root : FileTree}
    {files : List Path} {os : List Outcome}
    (h : List.Forall₂ (OutcomeOf (analyzeOne config pipeline root)) files os) :
    os.map Outcome.path = files := by
  induction h with
  | nil =>
      rfl
  | cons ho _ ih =>
      obtain ⟨scope, rfl⟩ := ho
      rw [List.map_cons, ih]
      rfl

/--
Batches agree.  Let a batch that does not stop after a failure discover some files.
With any number of workers, in whatever order these take turns and at whatever times,
it gives results, the run in order being one such case.  Up to timestamps its successes
are the analyses of those files that have one, in the order of discovery, and its
failures are the errors of the others, so that both are the same for every number of
workers.  Each file is in one of the two lists, once for each time it was discovered.
The files are cut into chunks and each chunk into slices for the workers: nothing is
lost, no slice is empty, and no chunk has more slices than there are workers.
-/
theorem directory_agrees
    (config : BatchConfig)
    (hoff : config.failFast = false)
    (pipeline : Pipeline) (root : FileTree) (p : Path)
    (scope : Scope) {files : List Path}
    (hfiles : (Discovery.discover config root p).value scope = .ok files) :
    ∀ threads : Nat,
      let batch := { config with threads := threads }
      MayGive batch pipeline root p
        ((analyzeDirectory batch pipeline root p).value scope) ∧
      (∀ given, MayGive batch pipeline root p given →
        ∃ results,
          given = .ok results ∧
          (results.successes.map (fun s => (s.1, s.2.undated))
            =
          files.filterMap fun q =>
            match (pipeline.analyzeFile root q config.language).value scope with
            | .ok a => some (q, a.undated)
            | .error _ => none) ∧
          (results.failures
            =
          files.filterMap fun q =>
            match (pipeline.analyzeFile root q config.language).value scope with
            | .ok _ => none
            | .error e => some (q, e)) ∧
          (results.successes.map Prod.fst ++ results.failures.map Prod.fst).Perm files ∧
          results.discovered = files.length ∧
          results.processed = results.discovered) ∧
      (∀ others results results',
        MayGive batch pipeline root p (.ok results) →
        MayGive { config with threads := others } pipeline root p (.ok results') →
        results.successes.map (fun s => (s.1, s.2.undated))
            = results'.successes.map (fun s => (s.1, s.2.undated)) ∧
          results.failures = results'.failures) ∧
      1 ≤ batch.workers ∧ batch.workers ≤ maxWorkers ∧
      (piecesOf (chunkSize files.length batch.workers) files).flatten = files ∧
      ∀ chunk ∈ piecesOf (chunkSize files.length batch.workers) files,
        (slices batch.workers chunk).flatten = chunk ∧
        (slices batch.workers chunk).length ≤ batch.workers ∧
        ∀ slice ∈ slices batch.workers chunk, slice ≠ [] := by
  have hgives : ∀ threads given,
      MayGive { config with threads := threads } pipeline root p given →
      ∃ os,
        List.Forall₂ (OutcomeOf (analyzeOne config pipeline root)) files os ∧
        given = .ok (.ofOutcomes files.length os) := by
    rintro threads given ⟨scope', hgiven⟩
    have hsame :
        (Discovery.discover { config with threads := threads } root p).value scope' =
          .ok files :=
      (Discovery.timeless_discover config root p scope' scope).trans hfiles
    rw [hsame] at hgiven
    obtain ⟨os, hos, hgiven⟩ := hgiven
    have houtcomes :=
      @forall₂_of_mayReport _ { config with threads := threads } files os hoff hos
    exact ⟨os, houtcomes, hgiven⟩
  intro threads batch
  have hbounds := batch.workers_bounds
  refine ⟨mayGive_analyzeDirectory batch pipeline root p scope, ?_, ?_,
    hbounds.1, hbounds.2, flatten_piecesOf _ files, ?_⟩
  · intro given hgiven
    obtain ⟨os, hos, rfl⟩ := hgives threads given hgiven
    have hperm := paths_perm os
    have hlength := hperm.length_eq
    rw [path_eq hos] at hperm hlength
    refine ⟨_, rfl, successes_eq scope hos, failures_eq scope hos, hperm, rfl, ?_⟩
    rw [List.length_append, List.length_map, List.length_map] at hlength
    exact hlength
  · intro others results results' hresults hresults'
    obtain ⟨os, hos, heq⟩ := hgives threads _ hresults
    obtain ⟨os', hos', heq'⟩ := hgives others _ hresults'
    cases heq
    cases heq'
    exact ⟨(successes_eq scope hos).trans (successes_eq scope hos').symm,
      (failures_eq scope hos).trans (failures_eq scope hos').symm⟩
  · intro chunk _
    exact ⟨flatten_piecesOf _ chunk, length_piecesOf_divideUp_le chunk hbounds.1,
      fun slice hslice => ne_nil_of_mem_piecesOf _ hslice⟩

/-- A folder with an empty file and one that is not text: the second one fails, however
many workers there are. -/
theorem directory_agrees_bad_text :
    let config : BatchConfig := { threads := 1 }
    let pipeline : Pipeline := ⟨⟨true, true⟩, ⟨true⟩⟩
    let root : FileTree := .folder [("a.c", .file ⟨#[]⟩), ("b.c", .file ⟨#[0xff]⟩)]
    config.failFast = false ∧
    (Discovery.discover config root ⟨"."⟩).value ⟨.epoch, none⟩
      = .ok [⟨"./a.c"⟩, ⟨"./b.c"⟩] ∧
    ∀ threads results,
      MayGive { config with threads := threads } pipeline root ⟨"."⟩ (.ok results) →
      results.failures = [(⟨"./b.c"⟩, .source (.invalidEncoding "./b.c"))] := by
  intro config pipeline root
  have hfiles :
      (Discovery.discover config root ⟨"."⟩).value ⟨.epoch, none⟩
        =
      .ok [⟨"./a.c"⟩, ⟨"./b.c"⟩] := by
    decide +kernel
  have hfailures :
      ([⟨"./a.c"⟩, ⟨"./b.c"⟩] : List Path).filterMap (fun q =>
        match (pipeline.analyzeFile root q config.language).value ⟨.epoch, none⟩ with
        | .ok _ => none
        | .error e => some (q, e))
        =
      [(⟨"./b.c"⟩, .source (.invalidEncoding "./b.c"))] := by
    decide +kernel
  refine ⟨rfl, hfiles, ?_⟩
  intro threads results hresults
  obtain ⟨_, hgiven, _⟩ :=
    directory_agrees config rfl pipeline root ⟨"."⟩ ⟨.epoch, none⟩ hfiles threads
  obtain ⟨_, heq, _, hfailed, _⟩ := hgiven _ hresults
  cases heq
  rw [hfailed, hfailures]

end Batch
end TableLexer
