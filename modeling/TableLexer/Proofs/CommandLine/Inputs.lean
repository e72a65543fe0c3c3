import TableLexer.Proofs.Batch.Directory
import TableLexer.Proofs.CommandLine.Runs

/-!
# What an input comes to

An input is the standard input, a folder or a file.  If reports are printed, the analyses
of an input that is taken go to the output and into the history, in order (`received`), and
the input went well if there is an analysis for all of it.  There is one lemma for each
kind of input, and they do not ask which other inputs there are.  A folder in which nothing
is discovered has an error of its own, which ends the run.
-/

namespace TableLexer

namespace Task

/-- Reports are printed, since they are to go nowhere else. -/
structure Prints (t : Task) : Prop where
  no_output : t.arguments.output = none
  no_download : t.arguments.download = none
  no_stats : t.arguments.stats = false

/-- The analysis of the file at a path, or the error in its place. -/
def outcome
    (t : Task) (files : FileTree) (language : Option Language) (p : Path) :
    Except AnalysisError Analysis :=
  (t.pipeline.analyzeFile files p language).value ⟨t.now, none⟩

/-- The analysis of a text in a language. -/
def analysis (t : Task) (source : String) (l : Language) : Analysis :=
  (t.pipeline.analyzeSource source l).value ⟨t.now, none⟩

end Task

/-- The analyses among outcomes. -/
def analysesOf (outcomes : List (Except AnalysisError Analysis)) : List Analysis :=
  outcomes.filterMap Except.toOption

/-- There is no error among the outcomes. -/
def allWell (outcomes : List (Except AnalysisError Analysis)) : Bool :=
  outcomes.all Except.isOk

@[simp] theorem analysesOf_ok
    (a : Analysis) :
    analysesOf [.ok a] = [a] :=
  rfl

@[simp] theorem analysesOf_error
    (e : AnalysisError) :
    analysesOf [.error e] = [] :=
  rfl

@[simp] theorem analysesOf_append
    (outcomes others : List (Except AnalysisError Analysis)) :
    analysesOf (outcomes ++ others) = analysesOf outcomes ++ analysesOf others :=
  List.filterMap_append

@[simp] theorem allWell_ok
    (a : Analysis) :
    allWell [.ok a] = true :=
  rfl

@[simp] theorem allWell_error
    (e : AnalysisError) :
    allWell [.error e] = false :=
  rfl

@[simp] theorem allWell_append
    (outcomes others : List (Except AnalysisError Analysis)) :
    allWell (outcomes ++ others) = (allWell outcomes && allWell others) :=
  List.all_append

section Outcomes

variable (files : List Path) (outcome : Path → Except AnalysisError Analysis)

/-- The successes of outcomes are the analyses among them. -/
theorem successes_of_outcomes :
    ((files.map fun q => (⟨q, outcome q⟩ : Outcome)).filterMap Outcome.success?).map
      Prod.snd
      =
    analysesOf (files.map outcome) := by
  rw [analysesOf, List.filterMap_map, List.filterMap_map, List.map_filterMap]
  congr 1
  funext q
  cases hq : outcome q <;> simp [Outcome.success?, hq, Except.toOption]

theorem failures_of_outcomes :
    ((files.map fun q => (⟨q, outcome q⟩ : Outcome)).filterMap Outcome.failure?).isEmpty
      =
    allWell (files.map outcome) := by
  induction files with
  | nil =>
      rfl
  | cons q files ih =>
      cases hq : outcome q with
      | error e =>
          simp [Outcome.failure?, hq, allWell, Except.isOk, Except.toBool]
      | ok a =>
          have hnone : Outcome.failure? ⟨q, outcome q⟩ = none := by
            simp [Outcome.failure?, hq]
          rw [List.map_cons, List.filterMap_cons_none hnone, ih]
          simp [allWell, hq, Except.isOk, Except.toBool]

end Outcomes

namespace Session

/-- The session after analyses have been recorded and printed. -/
def received (s : Session) (format : ReportFormat) (analyses : List Analysis) : Session :=
  { s with
    out := s.out ++ String.join (analyses.map fun a => printedReport a format)
    history :=
      analyses.foldl (fun h a =>
        (h.record ⟨a.source, a.language, a.timestamp⟩).1) s.history }

@[simp] theorem received_nil
    (s : Session) (format : ReportFormat) :
    s.received format [] = s := by
  simp [received]

@[simp] theorem received_append
    (s : Session) (format : ReportFormat)
    (analyses others : List Analysis) :
    (s.received format analyses).received format others =
      s.received format (analyses ++ others) := by
  simp [received, String.append_assoc]

section Inputs

variable {t : Task} {language : Option Language}

theorem leads_deliver
    (hprints : t.Prints)
    (label : String) (a : Analysis) (s : Session) :
    Leads (deliver t label a) s (.ok ()) (s.received t.format [a]) := by
  have hprint := leads_print
    { s with history := (s.history.record ⟨a.source, a.language, a.timestamp⟩).1 }
    (printedReport a t.format)
  have hreceived :
      s.received t.format [a]
        =
      { s with
        out := s.out ++ printedReport a t.format
        history := (s.history.record ⟨a.source, a.language, a.timestamp⟩).1 } := by
    simp [received]
  rw [hreceived]
  refine (leads_record s a).bind ?_
  rw [hprints.no_output, hprints.no_download]
  simp only [hprints.no_stats]
  exact hprint

theorem leads_deliverAll
    (hprints : t.Prints)
    (successes : List (Path × Analysis)) (s : Session) :
    Leads (deliverAll t successes) s (.ok ())
      (s.received t.format (successes.map Prod.snd)) := by
  induction successes generalizing s with
  | nil =>
      simpa [deliverAll] using leads_pure () s
  | cons success rest ih =>
      have hrest := ih (s.received t.format [success.2])
      rw [received_append, List.singleton_append] at hrest
      exact (leads_deliver hprints success.1.text success.2 s).bind hrest

/-- A file without analysis leaves everything as it was. -/
theorem leads_analyzeFile_of_error
    {s : Session} {p : Path} {e : AnalysisError}
    (h : t.outcome s.files language p = .error e) :
    Leads (analyzeFile t language p) s (.ok false) s := by
  refine leads_get (fun u hu => by rw [hu.files]) ?_
  have hperform := leads_perform t s (t.pipeline.analyzeFile s.files p language)
  rw [Task.outcome] at h
  rw [h] at hperform
  exact hperform.bind ((leads_perform t s _).bind
    ((leads_complain s _).bind (leads_pure false s)))

theorem leads_analyzeFile
    (hprints : t.Prints)
    (language : Option Language)
    (s : Session) (p : Path) :
    let outcomes := [t.outcome s.files language p]
    Leads (analyzeFile t language p) s (.ok (allWell outcomes))
      (s.received t.format (analysesOf outcomes)) := by
  intro outcomes
  cases h : t.outcome s.files language p with
  | error e =>
      simpa [outcomes, h] using leads_analyzeFile_of_error h
  | ok a =>
      have hfile : Leads (analyzeFile t language p) s (.ok true)
          (s.received t.format [a]) := by
        refine leads_get (fun u hu => by rw [hu.files]) ?_
        have hperform := leads_perform t s (t.pipeline.analyzeFile s.files p language)
        rw [Task.outcome] at h
        rw [h] at hperform
        exact hperform.bind ((leads_deliver hprints p.text a s).bind (leads_pure true _))
      simpa [outcomes, h] using hfile

/-- The error of a folder ends the run. -/
theorem leads_analyzeDirectory_of_error
    {s : Session} {p : Path} {e : BatchError}
    (h : (Batch.analyzeDirectory (t.batch language) t.pipeline s.files p).value
      ⟨t.now, none⟩
      = .error e) :
    Leads (analyzeDirectory t language p) s (.error e.message) s := by
  refine leads_get (fun u hu => by rw [hu.files]) ?_
  have hperform :=
    leads_perform t s (Batch.analyzeDirectory (t.batch language) t.pipeline s.files p)
  rw [h] at hperform
  have hfail : Leads (throw e.message : Step BatchResults) s (.error e.message) s :=
    leads_throw _ s
  exact hperform.bind hfail.bind_error

/-- The results of a batch are delivered, and then its failures are told. -/
theorem leads_analyzeDirectory_of_ok
    (hprints : t.Prints)
    {s : Session} {p : Path} {results : BatchResults}
    (h : (Batch.analyzeDirectory (t.batch language) t.pipeline s.files p).value
      ⟨t.now, none⟩
      = .ok results) :
    Leads (analyzeDirectory t language p) s (.ok results.failures.isEmpty)
      (s.received t.format (results.successes.map Prod.snd)) := by
  refine leads_get (fun u hu => by rw [hu.files]) ?_
  have hperform :=
    leads_perform t s (Batch.analyzeDirectory (t.batch language) t.pipeline s.files p)
  rw [h] at hperform
  refine hperform.bind ((leads_pure results s).bind ?_)
  refine (leads_deliverAll hprints results.successes s).bind ?_
  refine (leads_complainAll _ results.failures).bind ((leads_complain _ _).bind ?_)
  simp only
  split
  · exact (leads_perform t _ _).bind (leads_pure _ _)
  · exact leads_pure _ _

theorem leads_analyzeDirectory
    (hprints : t.Prints)
    (hoff : t.arguments.failFast = false)
    {s : Session} {p : Path} {tree : FileTree}
    (hfolder : Discovery.folder? s.files p = some tree)
    (hfound : Discovery.candidates (t.batch language) p tree ≠ []) :
    let outcomes :=
      (Discovery.candidates (t.batch language) p tree).map (t.outcome s.files language)
    Leads (analyzeDirectory t language p) s (.ok (allWell outcomes))
      (s.received t.format (analysesOf outcomes)) := by
  intro outcomes
  have hresults :=
    Batch.value_analyzeDirectory rfl hoff hfolder hfound t.pipeline ⟨t.now, none⟩
  have hdirectory := leads_analyzeDirectory_of_ok hprints hresults
  rw [BatchResults.ofOutcomes, successes_of_outcomes, failures_of_outcomes] at hdirectory
  exact hdirectory

theorem leads_analyzeInput
    (hprints : t.Prints)
    {s : Session} {source : String}
    (hinput : String.fromUTF8? s.input = some source)
    (l : Language) :
    Leads (analyzeInput t (some l)) s (.ok true)
      ({ s with input := ByteArray.empty }.received t.format [t.analysis source l]) := by
  have htake := leads_takeInput s
  rw [hinput] at htake
  exact htake.bind ((leads_perform t _ _).bind
    ((leads_deliver hprints _ _ _).bind (leads_pure true _)))

section One

variable {s s' : Session} {text : String} {answer : Except String Bool}

theorem leads_analyzeOne_of_input
    (h : Leads (analyzeInput t language) s answer s') :
    Leads (analyzeOne t language "-") s answer s' := by
  refine leads_get (fun u hu => by rw [hu.files]) ?_
  rw [if_pos rfl]
  exact h

/-- An input that is neither the standard input nor a folder is taken as a file. -/
theorem leads_analyzeOne_of_file
    (htext : text ≠ "-")
    (hfile : s.files.hasFolder ⟨text⟩ = false)
    (h : Leads (analyzeFile t language ⟨text⟩) s answer s') :
    Leads (analyzeOne t language text) s answer s' := by
  refine leads_get (fun u hu => by rw [hu.files]) ?_
  rw [if_neg htext, hfile]
  exact h

theorem leads_analyzeOne_of_folder
    (htext : text ≠ "-")
    (hfolder : s.files.hasFolder ⟨text⟩ = true)
    (h : Leads (analyzeDirectory t language ⟨text⟩) s answer s') :
    Leads (analyzeOne t language text) s answer s' := by
  refine leads_get (fun u hu => by rw [hu.files]) ?_
  rw [if_neg htext, hfolder]
  exact h

end One

end Inputs

end Session
end TableLexer
