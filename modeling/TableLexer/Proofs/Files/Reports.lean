import TableLexer.Diagnostic.Buffer
import TableLexer.Proofs.Builtin.Building
import TableLexer.Proofs.Files.Answers

/-!
# Failures of files are reported once

The analysis of a file can fail in six ways: the file cannot be looked up, is not a regular
one, has no known extension, is too large, cannot be read as text, or is left without a
language.  Each of them reports the error that becomes the answer, and nothing else on the
way is an error (`Pipeline.told_analyzeFileFrom`).

This does not depend on the files being those of a tree that stays as it is: the system may
answer anything when it is asked about a file (`FileAnswers`).
-/

namespace TableLexer

open Logged

namespace SourceFile

theorem tells_refuse
    {α : Type}
    (p : Path) (e : SourceError) (text : String)
    (pairs : List (String × String)) :
    Tells (codeOf SourceError.code) (refuse (α := α) p e text pairs) :=
  tells_error SourceError.code e text _

/-- Taking in a file reports the error that it answers with, and no other. -/
theorem tells_loadFrom
    (intake : Intake)
    (answers : FileAnswers)
    (p : Path) :
    Tells (codeOf SourceError.code) (loadFrom intake answers p) := by
  unfold loadFrom
  refine (tellsNoError_emitNow (by decide) _ _ _).bind fun _ => ?_
  split
  · exact tells_refuse p _ _ _
  · exact tells_refuse p _ _ _
  · simp only
    split
    · exact tells_refuse p _ _ _
    · split
      · exact tells_refuse p _ _ _
      · split
        · exact tells_refuse p _ _ _
        · exact (tellsNoError_emitNow (by decide) _ _ _).bind fun _ => tells_pure rfl

end SourceFile

/-- A scan reports no error, whatever it has to skip. -/
theorem Table.tellsNoError_scanLogged
    (t : Table) (settings : ScanSettings) (source : String) :
    TellsNoError (t.scanLogged settings source) := by
  unfold scanLogged
  refine (tellsNoError_emitNow (by decide) _ _ _).bind fun _ => ?_
  simp only
  split
  · refine (tellsNoError_emitNow (by decide) _ _ _).bind fun _ => ?_
    split
    · exact (tellsNoError_emitNow (by decide) _ _ _).bind fun _ => tells_pure rfl
    · exact tells_pure rfl
  · split
    · exact (tellsNoError_emitNow (by decide) _ _ _).bind fun _ => tells_pure rfl
    · exact tells_pure rfl

namespace Pipeline

variable (pipeline : Pipeline)

theorem tellsNoError_analyzeSource
    (source : String) (l : Language) :
    TellsNoError (pipeline.analyzeSource source l) :=
  (Table.tellsNoError_scanLogged (Table.builtin l) pipeline.scan source).bind fun _ =>
    tellsNoError_now.bind fun _ => tells_pure rfl

theorem tells_analyzeLoaded
    (language : Option Language)
    (f : SourceFile) :
    Tells (codeOf AnalysisError.code) (pipeline.analyzeLoaded language f) := by
  unfold analyzeLoaded
  cases language.or f.language with
  | some l =>
      exact (pipeline.tellsNoError_analyzeSource f.source l).bind fun _ => tells_pure rfl
  | none =>
      exact tells_error AnalysisError.code (.undetermined f.path.text) _ _

/-- All that is said during the analysis of a file is about this file, and the error that
it answers with is all that is reported. -/
theorem told_analyzeFileFrom
    (answers : FileAnswers)
    (path : Path)
    (language : Option Language)
    (scope : Scope) :
    Told (some path.text)
      (codeOf AnalysisError.code
        ((pipeline.analyzeFileFrom answers path language).value scope))
      ((pipeline.analyzeFileFrom answers path language).events scope) := by
  refine Tells.within ?_ path.text scope
  refine (tellsNoError_emitNow (by decide) _ _ _).bind fun _ => ?_
  refine (SourceFile.tells_loadFrom (pipeline.intake language) answers path).bind_except ?_
    ?_
  · intro e
    exact ⟨.error (.source e), rfl, rfl⟩
  · intro f
    exact pipeline.tells_analyzeLoaded language f

end Pipeline

/-! ## What is heard of a log -/

/-- What a service that records all levels is given of a log.  Events of the level debug
are not even emitted unless the settings ask for them. -/
def LogSettings.heard
    (settings : LogSettings)
    (log : List Event) :
    List Event :=
  LogService.delivered ⟨.debug⟩
    (log.filter fun e => e.level ≠ .debug || Level.debug.passes settings.threshold)

/-- Nothing but events of the level debug is kept from the service. -/
theorem LogSettings.heard_eq_filter
    (settings : LogSettings)
    (log : List Event) :
    settings.heard log
      =
    log.filter fun e => e.level ≠ .debug || Level.debug.passes settings.threshold := by
  refine List.filter_eq_self.2 fun e _ => ?_
  unfold LogService.enabled
  cases e.level <;> rfl

theorem ne_debug_of_isError
    {e : Event}
    (h : e.isError = true)
    (b : Bool) :
    (e.level ≠ .debug || b) = true := by
  have hlevel : e.level = .error := of_decide_eq_true h
  rw [hlevel]
  rfl

/-- No error is kept from the service. -/
theorem LogSettings.filter_isError_heard
    (settings : LogSettings)
    (log : List Event) :
    (settings.heard log).filter Event.isError = log.filter Event.isError := by
  rw [heard_eq_filter, filter_isError_filter fun e he => ne_debug_of_isError he _]

theorem Told.heard
    {file : Option String} {codes : List Code} {log : List Event}
    (h : Told file codes log)
    (settings : LogSettings) :
    Told file codes (settings.heard log) := by
  rw [LogSettings.heard_eq_filter]
  exact h.filter fun e he => ne_debug_of_isError he _

/-! ## Every failure is reported once -/

/-- The analysis of a file fails exactly if an error is reported, and then it is the only
one and has the code of the failure.  All that is said is about the file. -/
theorem Pipeline.failure_reported
    {pipeline : Pipeline} {answers : FileAnswers} {path : Path}
    {language : Option Language} {scope : Scope} {log : List Event}
    (hlog : (pipeline.analyzeFileFrom answers path language).MayLog scope log)
    (settings : LogSettings) :
    let outcome := (pipeline.analyzeFileFrom answers path language).value scope
    let heard := settings.heard log
    ((∃ e, outcome = .error e) ↔ ∃ e ∈ heard, e.isError = true) ∧
    (∀ e, outcome = .error e →
      ∃ report, heard.filter Event.isError = [report] ∧ report.code = e.code) ∧
    (∀ e ∈ heard, e.context.get? "file" = some path.text) := by
  intro outcome heard
  have htold : Told (some path.text) (codeOf AnalysisError.code outcome) heard :=
    ((pipeline.told_analyzeFileFrom answers path language scope).of_mayLog hlog).heard
      settings
  refine ⟨?_, ?_, htold.about path.text rfl⟩
  · cases houtcome : outcome with
    | ok a =>
        rw [houtcome] at htold
        have hnone : ∀ e ∈ heard, ¬ e.isError = true :=
          List.filter_eq_nil_iff.1 htold.filter_isError_eq_nil
        simpa using hnone
    | error e =>
        rw [houtcome] at htold
        obtain ⟨report, hreport, -⟩ := htold.exists_error
        have hmem : report ∈ heard.filter Event.isError := by
          rw [hreport]
          exact List.mem_singleton_self report
        exact ⟨fun _ => ⟨report, List.mem_filter.1 hmem⟩, fun _ => ⟨e, rfl⟩⟩
  · intro e he
    rw [he] at htold
    exact htold.exists_error

end TableLexer
