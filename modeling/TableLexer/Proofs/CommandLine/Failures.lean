import TableLexer.Proofs.CommandLine.Inputs
import TableLexer.Proofs.Report.Identity

/-!
# Inputs that fail

A file that has no analysis is told on the standard error output, and that is all: the run
goes on as if the file had not been named, and only its exit status tells.  A folder
without source files is different.  Its error ends the run, and so the inputs behind it are
not taken, although the registry says of both kinds of errors that work can go on.

Whether an input fails is asked when its turn comes, since reports that are written into a
directory change the files for the inputs behind.
-/

namespace TableLexer

/-- No error of a file is one after which nothing can be done. -/
theorem AnalysisError.requiresHalt_code
    (e : AnalysisError) :
    e.code.requiresHalt = false := by
  cases e with
  | source e =>
      cases e <;> rfl
  | language e =>
      rfl
  | undetermined path =>
      rfl

theorem BatchError.requiresHalt_noSourceFiles
    (path : String) :
    (BatchError.noSourceFiles path).code.requiresHalt = false := by
  change Code.requiresHalt .noSourceFiles = false
  decide

theorem Analysis.renderText_ne_empty
    (x : Analysis) :
    x.renderText ≠ "" := by
  intro hempty
  have hlist := x.toList_renderText
  rw [hempty] at hlist
  simp at hlist

namespace Session

/-- What is done for inputs depends on the arguments, but not on the inputs in them. -/
theorem analyzeAll_inputs
    (setting : Setting) (a : Arguments) (settings : Settings)
    (language : Option Language)
    (inputs texts : List String) :
    analyzeAll (taskFor setting { a with inputs := inputs } settings) language texts
      =
    analyzeAll (taskFor setting a settings) language texts := by
  have hdeliver : ∀ successes,
      deliverAll (taskFor setting { a with inputs := inputs } settings) successes
        =
      deliverAll (taskFor setting a settings) successes := by
    intro successes
    induction successes with
    | nil =>
        rfl
    | cons success rest ih =>
        rw [deliverAll, deliverAll, ih]
        rfl
  have hone : ∀ text,
      analyzeOne (taskFor setting { a with inputs := inputs } settings) language text
        =
      analyzeOne (taskFor setting a settings) language text := by
    intro text
    simp only [analyzeOne, analyzeDirectory, hdeliver]
    rfl
  induction texts with
  | nil =>
      rfl
  | cons text rest ih =>
      rw [analyzeAll, analyzeAll, hone, ih]

/-- A run with other inputs comes to what those come to. -/
theorem finish_of_texts
    {setting : Setting} {a : Arguments} {s s' : Session}
    {settings : Settings} {language : Option Language} {answer : Except String Bool}
    {texts : List String}
    (houtput : a.output = none)
    (hprepare : prepare setting a s.files = .ok (settings, language))
    (h : Leads (analyzeAll (taskFor setting a settings) language texts) s answer s') :
    let ended := finish setting { a with inputs := texts } s
    ended.1 = statusOf answer ∧ Alike s' ended.2 := by
  rw [← analyzeAll_inputs setting a settings language texts] at h
  exact finish_of_inputs houtput hprepare h

/-- At the path there is no folder, and no file that has an analysis. -/
def FileFails
    (setting : Setting) (a : Arguments)
    (start files : FileTree) (p : Path) :
    Prop :=
  files.hasFolder p = false ∧
  ∀ settings language, prepare setting a start = .ok (settings, language) →
    ∃ e,
      ((Pipeline.ofSettings settings).analyzeFile files p language).value
        ⟨setting.now, none⟩
        = .error e

/-- At the path there is a folder in which no source file is found. -/
def FolderIsBare
    (a : Arguments) (files : FileTree) (p : Path) :
    Prop :=
  ∃ tree,
    Discovery.folder? files p = some tree ∧
    ∀ language, languageFor a = .ok language →
      Discovery.belowAll language (!a.noRecursive) p tree.children = []

variable {setting : Setting} {a : Arguments} {settings : Settings}
  {language : Option Language}

theorem leads_analyzeOne_of_bare
    (setting : Setting) (settings : Settings)
    {s : Session} {text : String}
    (htext : text ≠ "-")
    (hlanguage : languageFor a = .ok language)
    (hbare : FolderIsBare a s.files ⟨text⟩) :
    Leads (analyzeOne (taskFor setting a settings) language text) s
      (.error (BatchError.noSourceFiles text).message) s := by
  obtain ⟨tree, hfolder, hnone⟩ := hbare
  have hfound : s.files.hasFolder ⟨text⟩ = true := by
    rw [Discovery.hasFolder_eq, hfolder]
    rfl
  have hcandidates :
      Discovery.candidates ((taskFor setting a settings).batch language) ⟨text⟩ tree =
        [] :=
    hnone language hlanguage
  exact leads_analyzeOne_of_folder htext hfound (leads_analyzeDirectory_of_error
    (Batch.value_analyzeDirectory_of_bare rfl hfolder hcandidates _ _))

section Runs

variable {s : Session} {before after : List String} {text : String}

/-- Either the first inputs are taken, or the run does not come to any inputs behind
them. -/
theorem finish_append_cases
    (houtput : a.output = none)
    (before : List String) (s : Session) :
    (∃ settings language ok s₁,
      prepare setting a s.files = .ok (settings, language) ∧
      Leads (analyzeAll (taskFor setting a settings) language before) s (.ok ok) s₁) ∨
    ∀ after,
      (finish setting { a with inputs := before ++ after } s).1 = 1 ∧
      Alike (finish setting { a with inputs := before } s).2
        (finish setting { a with inputs := before ++ after } s).2 := by
  cases hprepare : prepare setting a s.files with
  | error message =>
      refine Or.inr fun after => ?_
      have hfirsts := @finish_of_refused setting { a with inputs := before } s message
        houtput hprepare
      have hwhole :=
        @finish_of_refused setting { a with inputs := before ++ after } s message
        houtput hprepare
      exact ⟨hwhole.1, hfirsts.2.trans_symm hwhole.2⟩
  | ok prepared =>
      obtain ⟨settings, language⟩ := prepared
      obtain ⟨answer, s₁, hbefore⟩ :=
        deaf_analyzeAll (taskFor setting a settings) language before s
      cases answer with
      | ok ok =>
          exact Or.inl ⟨settings, language, ok, s₁, rfl, hbefore⟩
      | error message =>
          refine Or.inr fun after => ?_
          have hfirsts := finish_of_texts houtput hprepare hbefore
          have hwhole :=
            finish_of_texts houtput hprepare (leads_analyzeAll_of_error hbefore after)
          exact ⟨hwhole.1, hfirsts.2.trans_symm hwhole.2⟩

/-- With and without a failing file, a run does the same. -/
theorem finish_of_fileFails
    (houtput : a.output = none)
    (htext : text ≠ "-")
    (hfails :
      FileFails setting a s.files
        (finish setting { a with inputs := before } s).2.files ⟨text⟩) :
    let others := finish setting { a with inputs := before ++ after } s
    let whole := finish setting { a with inputs := before ++ text :: after } s
    whole.1 = 1 ∧ Alike others.2 whole.2 := by
  rcases @finish_append_cases setting a houtput before s with
    ⟨settings, language, ok, s₁, hprepare, hbefore⟩ | hnever
  · have hfirsts := finish_of_texts houtput hprepare hbefore
    rw [hfirsts.2.files] at hfails
    obtain ⟨hfile, hnone⟩ := hfails
    obtain ⟨e, he⟩ := hnone settings language hprepare
    have hone :
        Leads (analyzeOne (taskFor setting a settings) language text) s₁ (.ok false) s₁ :=
      leads_analyzeOne_of_file htext hfile (leads_analyzeFile_of_error he)
    -- the inputs behind the file are taken from the same session as without it
    obtain ⟨rest, s₂, hafter⟩ :=
      deaf_analyzeAll (taskFor setting a settings) language after s₁
    have hothers := finish_of_texts houtput hprepare
      (leads_analyzeAll_append hbefore hafter)
    have hwhole := finish_of_texts houtput hprepare
      (leads_analyzeAll_append hbefore (leads_analyzeAll_cons hone hafter))
    refine ⟨hwhole.1.trans ?_, hothers.2.trans_symm hwhole.2⟩
    cases rest <;> simp [Except.map, statusOf]
  · exact ⟨(hnever _).1, (hnever after).2.trans_symm (hnever _).2⟩

/-- With a bare folder among the inputs, a run does what it does for those before it. -/
theorem finish_of_folderIsBare
    (houtput : a.output = none)
    (htext : text ≠ "-")
    (hbare : FolderIsBare a (finish setting { a with inputs := before } s).2.files
      ⟨text⟩) :
    let firsts := finish setting { a with inputs := before } s
    let whole := finish setting { a with inputs := before ++ text :: after } s
    whole.1 = 1 ∧ Alike firsts.2 whole.2 := by
  rcases @finish_append_cases setting a houtput before s with
    ⟨settings, language, ok, s₁, hprepare, hbefore⟩ | hnever
  · have hfirsts := finish_of_texts houtput hprepare hbefore
    rw [hfirsts.2.files] at hbare
    have hone :=
      leads_analyzeOne_of_bare setting settings htext (prepare_eq_ok hprepare).2 hbare
    have hwhole := finish_of_texts houtput hprepare
      (leads_analyzeAll_append hbefore (leads_analyzeAll_cons_of_error hone after))
    exact ⟨hwhole.1, hfirsts.2.trans_symm hwhole.2⟩
  · exact hnever (text :: after)

end Runs

/--
Inputs that fail.  A file without analysis does not disturb the other inputs: apart from
messages, a run that names it ends like one that does not, but its exit status is that of a
failure.  A folder without source files ends the run: apart from messages, the session is
that of the inputs before the folder, and those behind it are not taken.  The errors of
both are registered as ones after which something can be done.
-/
theorem failing_inputs
    (setting : Setting) (a : Arguments) (s : Session)
    (before after : List String) (text : String)
    (houtput : a.output = none)
    (htext : text ≠ "-") :
    let firsts := finish setting { a with inputs := before } s
    let others := finish setting { a with inputs := before ++ after } s
    let whole := finish setting { a with inputs := before ++ text :: after } s
    (FileFails setting a s.files firsts.2.files ⟨text⟩ →
      whole.1 = 1 ∧ Alike others.2 whole.2) ∧
    (FolderIsBare a firsts.2.files ⟨text⟩ →
      whole.1 = 1 ∧ Alike firsts.2 whole.2) ∧
    (∀ e : AnalysisError, e.code.requiresHalt = false) ∧
    ∀ p, (BatchError.noSourceFiles p).code.requiresHalt = false :=
  ⟨finish_of_fileFails houtput htext, finish_of_folderIsBare houtput htext,
    AnalysisError.requiresHalt_code, BatchError.requiresHalt_noSourceFiles⟩

/-- A missing file in front of a file. -/
theorem failing_inputs_missing_file :
    let setting : Setting := ⟨[], .epoch, 4⟩
    let s : Session := { files := .folder [("a.c", .file ⟨#[0x78]⟩)], input := .empty }
    FileFails setting { inputs := [] } s.files s.files ⟨"gone.c"⟩ ∧
    "gone.c" ≠ "-" ∧
    (finish setting { inputs := ["gone.c", "a.c"] } s).1 = 1 ∧
    Alike (finish setting { inputs := ["a.c"] } s).2
      (finish setting { inputs := ["gone.c", "a.c"] } s).2 := by
  intro setting s
  have hvalue :
      ((Pipeline.ofSettings (.ofEnvironment [])).analyzeFile
          (.folder [("a.c", .file ⟨#[0x78]⟩)]) ⟨"gone.c"⟩ none).value ⟨.epoch, none⟩
        =
      .error (.source (.notFound "gone.c")) := by
    decide +kernel
  have hfails : FileFails setting { inputs := [] } s.files s.files ⟨"gone.c"⟩ := by
    refine ⟨rfl, ?_⟩
    intro settings language hprepare
    cases hprepare
    exact ⟨_, hvalue⟩
  have hnothing :
      Leads (analyzeAll (taskFor setting { inputs := [] } (.ofEnvironment [])) none [])
      s (.ok true) s :=
    leads_pure true s
  have hfirsts := @finish_of_inputs setting { inputs := [] } s s _ _ _ rfl rfl hnothing
  have hboth :=
    failing_inputs setting { inputs := [] } s [] ["a.c"] "gone.c" rfl (by decide)
  exact ⟨hfails, by decide, hboth.1 (by rw [hfirsts.2.files]; exact hfails)⟩

/-- The report of a file is printed, if the file is the only input. -/
theorem out_of_file
    {setting : Setting} {a : Arguments} {s : Session} {text : String}
    {settings : Settings} {language : Option Language} {x : Analysis}
    (hprints : (taskFor setting a settings).Prints)
    (htext : text ≠ "-")
    (hfile : s.files.hasFolder ⟨text⟩ = false)
    (hprepare : prepare setting a s.files = .ok (settings, language))
    (hx : (taskFor setting a settings).outcome s.files language ⟨text⟩ = .ok x) :
    (finish setting { a with inputs := [text] } s).2.out
      = s.out ++ printedReport x (a.format.getD .text) := by
  have hone := leads_analyzeOne_of_file htext hfile
    (leads_analyzeFile hprints language s ⟨text⟩)
  rw [hx, analysesOf_ok, allWell_ok] at hone
  have hnone :
      Leads (analyzeAll (taskFor setting a settings) language [])
        (s.received (taskFor setting a settings).format [x]) (.ok true)
        (s.received (taskFor setting a settings).format [x]) :=
    leads_pure true _
  have hall := leads_analyzeAll_cons hone hnone
  have hfinish :=
    @finish_of_texts setting a s _ settings language _ [text] hprints.no_output
      hprepare hall
  rw [hfinish.2.out]
  simp [received, Task.format, taskFor]

/-- Behind a bare folder, a file is not analyzed, although the error of the folder is
registered as one after which work can go on. -/
theorem bare_folder_hides_file :
    let setting : Setting := ⟨[], .epoch, 4⟩
    let s : Session :=
      { files := .folder [("a.c", .file ⟨#[]⟩), ("bare", .folder [])], input := .empty }
    FolderIsBare { inputs := [] } s.files ⟨"bare"⟩ ∧
    (BatchError.noSourceFiles "bare").code.isRecoverable = true ∧
    (finish setting { inputs := ["bare", "a.c"] } s).2.out = "" ∧
    (finish setting { inputs := ["a.c"] } s).2.out ≠ "" := by
  intro setting s
  have hbare : FolderIsBare { inputs := [] } s.files ⟨"bare"⟩ :=
    ⟨.folder [], rfl, fun _ _ => rfl⟩
  have hrecoverable : (BatchError.noSourceFiles "bare").code.isRecoverable = true := by
    change Code.isRecoverable .noSourceFiles = true
    decide
  have hone :
      Leads (analyzeOne (taskFor setting { inputs := [] } (.ofEnvironment [])) none "bare")
        s (.error (BatchError.noSourceFiles "bare").message) s :=
    leads_analyzeOne_of_bare setting (.ofEnvironment []) (by decide) rfl hbare
  have hwhole :
      (finish setting { inputs := ["bare", "a.c"] } s).1 = 1 ∧
      Alike s (finish setting { inputs := ["bare", "a.c"] } s).2 :=
    @finish_of_texts setting { inputs := [] } s s _ _ _ ["bare", "a.c"] rfl rfl
      (leads_analyzeAll_cons_of_error hone ["a.c"])
  have hwell :
      allWell [(taskFor ⟨[], .epoch, 4⟩ { inputs := [] } (.ofEnvironment [])).outcome
        (.folder [("a.c", .file ⟨#[]⟩), ("bare", .folder [])]) none ⟨"a.c"⟩] = true := by
    decide +kernel
  refine ⟨hbare, hrecoverable, hwhole.2.out, ?_⟩
  cases hx :
      (taskFor ⟨[], .epoch, 4⟩ { inputs := [] } (.ofEnvironment [])).outcome
        (.folder [("a.c", .file ⟨#[]⟩), ("bare", .folder [])]) none ⟨"a.c"⟩ with
  | error e =>
      rw [hx] at hwell
      cases hwell
  | ok x =>
      have hout :=
        @out_of_file setting { inputs := [] } s "a.c" (.ofEnvironment []) none x
          ⟨rfl, rfl, rfl⟩ (by decide) rfl rfl hx
      rw [hout]
      change "" ++ (x.renderText ++ "") ≠ ""
      rw [String.empty_append, String.append_empty]
      exact x.renderText_ne_empty

end Session
end TableLexer
