import Mathlib.Data.List.Perm.Basic
import TableLexer.Proofs.Batch.Logs
import TableLexer.Proofs.Files.Reports

/-!
# Failures of batches are reported twice

In a batch the failure of a file is reported where the file is analyzed, and once more when
all files are done.  A single worker reports the failures of its files in their order
(`Batch.reports_of_inOrderMayLog`).  Several workers write to one log, and merging their
events only changes the order of the reports (`Batch.reports_of_chunkMayLog`), so that
these are a permutation of the failures, each taken twice
(`Batch.failuresTwice_of_batchMayLog`).

`failures_are_reported` puts this together with the analysis of a file and the search for
the files of a directory.
-/

namespace TableLexer

open Logged

/-- The error that reports a failure about its own file. -/
def reportOf (f : Path × AnalysisError) : Option String × Code :=
  (some f.1.text, f.2.code)

/-- The errors that report the failures among outcomes. -/
def reportsOf (os : List Outcome) : List (Option String × Code) :=
  (os.filterMap Outcome.failure?).map reportOf

theorem reportsOf_append
    (os os' : List Outcome) :
    reportsOf (os ++ os') = reportsOf os ++ reportsOf os' := by
  rw [reportsOf, List.filterMap_append, List.map_append, reportsOf, reportsOf]

namespace Batch

variable {config : BatchConfig} {pipeline : Pipeline} {answers : Path → FileAnswers}
  {scope : Scope}

/-! ## The files of a batch -/

/-- The failure of a file is reported with its outcome, and nothing else is. -/
theorem reports_of_outcomeWithLog
    {p : Path} {o : Outcome} {said : List Event}
    (h : OutcomeWithLog (analyzeOneFrom config pipeline answers) p o said) :
    reports said = reportsOf [o] := by
  obtain ⟨own, rfl, hlog⟩ := h
  have hsaid : (pipeline.analyzeFileFrom (answers p) p config.language).MayLog own said :=
    hlog.of_bind_pure
  have htold :=
    (pipeline.told_analyzeFileFrom (answers p) p config.language own).of_mayLog hsaid
  rw [htold.reports_eq, analyzeOneFrom, Logged.value_bind, Logged.value_pure]
  cases (pipeline.analyzeFileFrom (answers p) p config.language).value own <;> rfl

theorem reports_of_logStop
    {stopped : List Event}
    (h : logStop.MayLog scope stopped) :
    reports stopped = [] :=
  h.reports_eq

theorem reports_of_inOrderMayLog
    {failFast : Bool} {files : List Path} {os : List Outcome} {log : List Event}
    (h : InOrderMayLog failFast (analyzeOneFrom config pipeline answers) scope
      files os log) :
    reports log = reportsOf os := by
  induction h with
  | none =>
      rfl
  | stop houtcome _ hstopped =>
      rw [reports_append, reports_of_outcomeWithLog houtcome, reports_of_logStop hstopped,
        List.append_nil]
  | @next p rest o os said more houtcome _ _ ih =>
      rw [reports_append, reports_of_outcomeWithLog houtcome, ih, ← reportsOf_append,
        List.singleton_append]

theorem reports_of_parts
    {slices : List (List Path)} {parts : List (List Outcome × List Event)}
    (h : List.Forall₂
      (fun slice part =>
        InOrderMayLog false (analyzeOneFrom config pipeline answers) scope slice
          part.1 part.2)
      slices parts) :
    reports (parts.map Prod.snd).flatten = reportsOf (parts.flatMap Prod.fst) := by
  induction h with
  | nil =>
      rfl
  | cons hslice _ ih =>
      rw [List.map_cons, List.flatten_cons, List.flatMap_cons, reports_append,
        reportsOf_append, reports_of_inOrderMayLog hslice, ih]

/-- In whatever order the workers of a chunk write to the log, its reports are those of
their outcomes. -/
theorem reports_of_chunkMayLog
    {workers : Nat} {chunk : List Path} {os : List Outcome} {log : List Event}
    (h : ChunkMayLog (analyzeOneFrom config pipeline answers) scope workers chunk os log) :
    (reports log).Perm (reportsOf os) := by
  obtain ⟨parts, hparts, rfl, hmerged⟩ := h
  rw [← reports_of_parts hparts]
  exact (hmerged.perm.filter _).map _

theorem reports_of_chunksMayLog
    {failFast : Bool} {workers : Nat}
    {chunks : List (List Path)} {os : List Outcome} {log : List Event}
    (h : ChunksMayLog failFast workers (analyzeOneFrom config pipeline answers) scope
      chunks os log) :
    (reports log).Perm (reportsOf os) := by
  induction h with
  | none =>
      exact .refl _
  | stop hchunk _ hstopped =>
      rw [reports_append, reports_of_logStop hstopped, List.append_nil]
      exact reports_of_chunkMayLog hchunk
  | next hchunk _ _ ih =>
      rw [reports_append, reportsOf_append]
      exact (reports_of_chunkMayLog hchunk).append ih

/-- The failures of files are reported once while these are analyzed. -/
theorem reports_of_filesMayLog
    {files : List Path} {os : List Outcome} {log : List Event}
    (h : FilesMayLog config (analyzeOneFrom config pipeline answers) scope files os log) :
    (reports log).Perm (reportsOf os) := by
  unfold FilesMayLog at h
  split at h
  · rw [reports_of_inOrderMayLog h]
  · obtain ⟨shared, said, hshared, hsaid, rfl⟩ := h
    have hquiet : reports shared = [] := hshared.reports_eq
    rw [reports_append, hquiet, List.nil_append]
    exact reports_of_chunksMayLog hsaid

/-! ## The directory -/

/-- The search for the files reports the error that it answers with, and no other. -/
theorem tells_discover
    (config : BatchConfig)
    (root : FileTree) (dir : Path) :
    Tells (codeOf BatchError.code) (Discovery.discover config root dir) := by
  unfold Discovery.discover
  refine (tellsNoError_emitNow (by decide) _ _ _).bind fun _ => ?_
  cases Discovery.folder? root dir with
  | none =>
      exact tells_error BatchError.code (.directoryNotFound dir.text) _ _
  | some t =>
      simp only
      split
      · refine (tellsNoError_emitNow (by decide) _ _ _).bind fun _ => ?_
        split
        · exact tells_error BatchError.code (.noSourceFiles dir.text) _ _
        · exact (tellsNoError_emitNow (by decide) _ _ _).bind fun _ => tells_pure rfl
      · split
        · exact tells_error BatchError.code (.noSourceFiles dir.text) _ _
        · exact (tellsNoError_emitNow (by decide) _ _ _).bind fun _ => tells_pure rfl

/-- The error that reports a failure in the end is about the file at hand, if there is
any. -/
def closingReportOf
    (scope : Scope)
    (f : Path × AnalysisError) :
    Option String × Code :=
  (some (scope.file.getD f.1.text), f.2.code)

theorem reports_logFailure
    (f : Path × AnalysisError) :
    reports ((logFailure f).events scope) = [closingReportOf scope f] := by
  have hfile : (scope.deliver (.coded scope.now .error f.2.code "File analysis failed")
      [("file", f.1.text), ("error", f.2.message)]).context.get? "file"
        = some (scope.file.getD f.1.text) := by
    cases hscope : scope.file with
    | none =>
        simp [Scope.deliver, hscope, Context.insertAll]
    | some path =>
        exact scope.file_deliver _ _ hscope
  rw [closingReportOf, ← hfile]
  rfl

theorem reports_logResults
    (results : BatchResults) :
    reports ((logResults results).events scope)
      =
    results.failures.map (closingReportOf scope) := by
  have hfailed : ∀ fs : List (Path × AnalysisError),
      reports (fs.flatMap fun f => (logFailure f).events scope)
        =
      fs.map (closingReportOf scope) := by
    intro fs
    induction fs with
    | nil =>
        rfl
    | cons f fs ih =>
        rw [List.flatMap_cons, reports_append, reports_logFailure, ih, List.map_cons,
          List.singleton_append]
  have hcomplete : ∀ pairs, reports ((Logged.success .batchComplete
      "Batch analysis completed" pairs).events scope) = [] := by
    intro pairs
    rfl
  rw [logResults, Logged.events_bind, Logged.events_mapEach, reports_append,
    hfailed, hcomplete, List.append_nil]

/-- Each failure of a file is reported twice among the events, with the code of the
failure, and nothing else is.  One report is about the file; the other one is about the
file at hand around the batch, if there is any, and else about the same file. -/
def FailuresTwice
    (scope : Scope)
    (results : BatchResults)
    (es : List Event) :
    Prop :=
  es.countP Event.isError = 2 * results.failures.length ∧
  ((es.filter Event.isError).map fun e => (e.context.get? "file", e.code)).Perm
    (results.failures.flatMap fun (p, e) =>
      [(some p.text, e.code), (some (scope.file.getD p.text), e.code)])

/-- It is the errors that count. -/
theorem FailuresTwice.of_filter_eq
    {results : BatchResults} {es es' : List Event}
    (h : FailuresTwice scope results es)
    (heq : es'.filter Event.isError = es.filter Event.isError) :
    FailuresTwice scope results es' := by
  unfold FailuresTwice at h ⊢
  rwa [List.countP_eq_length_filter, heq, ← List.countP_eq_length_filter]

theorem failuresTwice_of_batchMayLog
    {files : List Path} {results : BatchResults} {log : List Event}
    (h : BatchMayLog config pipeline answers scope files results log) :
    FailuresTwice scope results log := by
  obtain ⟨os, said, after, hsaid, hresults, hafter, rfl⟩ := h
  have hfirst : (reports said).Perm (results.failures.map reportOf) := by
    rw [hresults]
    exact reports_of_filesMayLog hsaid
  have hsecond : reports after = results.failures.map (closingReportOf scope) :=
    hafter.reports_eq.trans (reports_logResults results)
  -- The first reports come in the order of the workers, the second ones in that of the
  -- results.
  have hboth : (reports (said ++ after)).Perm
      (results.failures.flatMap fun f => [reportOf f, closingReportOf scope f]) := by
    rw [reports_append, hsecond, List.map_eq_flatMap (f := closingReportOf scope)]
    exact (hfirst.append_right _).trans (List.map_append_flatMap_perm _ _ _)
  refine ⟨?_, hboth⟩
  rw [← length_reports, hboth.length_eq]
  simp [List.length_flatMap, Nat.mul_comm]

theorem processed_ofOutcomes
    (discovered : Nat)
    (os : List Outcome) :
    (BatchResults.ofOutcomes discovered os).processed = os.length := by
  unfold BatchResults.processed BatchResults.ofOutcomes
  induction os with
  | nil =>
      rfl
  | cons o os ih =>
      simp only at ih
      obtain ⟨p, result⟩ := o
      cases result <;>
        simp only [List.filterMap_cons, Outcome.success?, Outcome.failure?,
          List.length_cons] <;>
        omega

/-- A batch that does not stop after a failure has a result for each of its files. -/
theorem processed_of_batchMayLog
    {files : List Path} {results : BatchResults} {log : List Event}
    (hoff : config.failFast = false)
    (h : BatchMayLog config pipeline answers scope files results log) :
    results.processed = files.length := by
  obtain ⟨os, said, after, hsaid, rfl, -, -⟩ := h
  have houtcomes := forall₂_of_mayReport hoff (mayReport_of_filesMayLog hsaid)
  rw [processed_ofOutcomes, houtcomes.length_eq]

/-- A directory without results has one error in its log, that of the search. -/
theorem exists_error_of_directoryMayLog
    {root : FileTree} {dir : Path} {e : BatchError} {log : List Event}
    (h : DirectoryMayLog config pipeline root answers dir scope (.error e) log) :
    ∃ report, log.filter Event.isError = [report] ∧ report.code = e.code := by
  obtain ⟨before, hbefore, hrest⟩ := h
  have htold := (tells_discover config root dir scope).of_mayLog hbefore
  cases hfiles : (Discovery.discover config root dir).value scope with
  | error e' =>
      rw [hfiles] at hrest htold
      obtain ⟨he, rfl⟩ := hrest
      cases he
      exact htold.exists_error
  | ok files =>
      rw [hfiles] at hrest
      obtain ⟨results, said, -, hresults, -⟩ := hrest
      cases hresults

theorem failuresTwice_of_directoryMayLog
    {root : FileTree} {dir : Path} {results : BatchResults} {log : List Event}
    (h : DirectoryMayLog config pipeline root answers dir scope (.ok results) log) :
    FailuresTwice scope results log := by
  obtain ⟨before, hbefore, hrest⟩ := h
  have htold := (tells_discover config root dir scope).of_mayLog hbefore
  cases hfiles : (Discovery.discover config root dir).value scope with
  | error e =>
      rw [hfiles] at hrest
      cases hrest.1
  | ok files =>
      rw [hfiles] at hrest htold
      obtain ⟨_, said, hbatch, hresults, rfl⟩ := hrest
      cases hresults
      have hquiet : before.filter Event.isError = [] := htold.filter_isError_eq_nil
      refine (failuresTwice_of_batchMayLog hbatch).of_filter_eq ?_
      rw [List.filter_append, hquiet, List.nil_append]

end Batch

/--
Every failure is reported by what fails, and nothing else is reported.  This is said of
what a service hears that records all levels, whatever the settings of the log are,
whatever the system answers about the files, and whether the tables are still to be
compiled or not.

The analysis of a file fails exactly if an error is heard; then there is one error, with
the code of the failure.  All that is heard of the analysis is about the file.  In a batch
of any files there are two errors for each file that fails, both with the code of its
failure, and no others, in whatever order the workers write to the log; if the batch does
not stop after a failure, each of its files has a result.  The search for the files of a
directory adds no error to that; if there is no batch because of it, there is one error,
with its code.  The analyses as they are, of the files of a tree and in order, are among
these cases.
-/
theorem failures_are_reported
    (pipeline : Pipeline)
    (settings : LogSettings)
    (scope : Scope) :
    (∀ answers path language log,
      (pipeline.analyzeFileFrom answers path language).MayLog scope log →
      let outcome := (pipeline.analyzeFileFrom answers path language).value scope
      let heard := settings.heard log
      ((∃ e, outcome = .error e) ↔ ∃ e ∈ heard, e.isError = true) ∧
      (∀ e, outcome = .error e →
        ∃ report, heard.filter Event.isError = [report] ∧ report.code = e.code) ∧
      (∀ e ∈ heard, e.context.get? "file" = some path.text)) ∧
    (∀ config answers files results log,
      Batch.BatchMayLog config pipeline answers scope files results log →
      Batch.FailuresTwice scope results (settings.heard log) ∧
      (config.failFast = false → results.processed = files.length)) ∧
    (∀ config root answers dir given log,
      Batch.DirectoryMayLog config pipeline root answers dir scope given log →
      let heard := settings.heard log
      (∀ results, given = .ok results → Batch.FailuresTwice scope results heard) ∧
      (∀ e, given = .error e →
        ∃ report, heard.filter Event.isError = [report] ∧ report.code = e.code)) ∧
    (∀ root path language,
      pipeline.analyzeFile root path language
        =
      pipeline.analyzeFileFrom (.ofTree root path) path language) ∧
    (∀ config root dir log,
      (Batch.analyzeDirectory config pipeline root dir).MayLog scope log →
      Batch.DirectoryMayLog config pipeline root (.ofTree root) dir scope
        ((Batch.analyzeDirectory config pipeline root dir).value scope) log) := by
  refine ⟨fun answers path language log hlog => Pipeline.failure_reported hlog settings,
    ?_, ?_, pipeline.analyzeFile_eq,
    fun config root dir log hlog => Batch.directoryMayLog_analyzeDirectory hlog⟩
  · intro config answers files results log hlog
    refine ⟨?_, fun hoff => Batch.processed_of_batchMayLog hoff hlog⟩
    exact (Batch.failuresTwice_of_batchMayLog hlog).of_filter_eq
      (settings.filter_isError_heard log)
  · intro config root answers dir given log hlog heard
    have herrors : heard.filter Event.isError = log.filter Event.isError :=
      settings.filter_isError_heard log
    constructor
    · rintro results rfl
      exact (Batch.failuresTwice_of_directoryMayLog hlog).of_filter_eq herrors
    · rintro e rfl
      rw [herrors]
      exact Batch.exists_error_of_directoryMayLog hlog

/-- A file of bytes that are no text has one error in its analysis, and two in a batch with
an empty file. -/
theorem failures_are_reported_bad_text :
    let pipeline : Pipeline := ⟨⟨true, true⟩, ⟨true⟩⟩
    let root : FileTree := .folder [("a.c", .file ⟨#[]⟩), ("b.c", .file ⟨#[0xff]⟩)]
    let config : BatchConfig := { threads := 2 }
    let heard := LogSettings.heard ⟨false, false, .info⟩
    let bad := pipeline.analyzeFile root ⟨"./b.c"⟩ none
    let batch := Batch.analyzeDirectory config pipeline root ⟨"."⟩
    (∃ report,
      (heard (bad.events ⟨.epoch, none⟩)).filter Event.isError = [report] ∧
      report.code = .invalidEncoding) ∧
    (∃ results,
      batch.value ⟨.epoch, none⟩ = .ok results ∧
      results.failures.length = 1 ∧
      (heard (batch.events ⟨.epoch, none⟩)).countP Event.isError = 2) := by
  intro pipeline root config heard bad batch
  obtain ⟨hfile, -, hdirectory, hsame, hrun⟩ :=
    failures_are_reported pipeline ⟨false, false, .info⟩ ⟨.epoch, none⟩
  have hbad :
      bad.value ⟨.epoch, none⟩ = .error (.source (.invalidEncoding "./b.c")) := by
    decide +kernel
  have hfailures :
      (match batch.value ⟨.epoch, none⟩ with
        | .ok results => results.failures.length
        | .error _ => 0) = 1 := by
    decide +kernel
  constructor
  · rw [show bad = _ from hsame root ⟨"./b.c"⟩ none] at hbad ⊢
    exact (hfile _ _ _ _ (Or.inl rfl)).2.1 _ hbad
  · have hlog := hrun config root ⟨"."⟩ _ (Or.inl rfl)
    cases hresults : batch.value ⟨.epoch, none⟩ with
    | error e =>
        rw [hresults] at hfailures
        cases hfailures
    | ok results =>
        rw [hresults] at hfailures
        have hone : results.failures.length = 1 := hfailures
        have htwice := ((hdirectory _ _ _ _ _ _ hlog).1 results hresults).1
        rw [hone] at htwice
        exact ⟨results, rfl, hone, htwice⟩

end TableLexer
