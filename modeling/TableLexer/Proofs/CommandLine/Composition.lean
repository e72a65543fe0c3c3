import TableLexer.Proofs.Batch.Agreement
import TableLexer.Proofs.CommandLine.Inputs

/-!
# A run is the composition of its inputs

Each input stands for outcomes, and these depend on the files, the settings and the
language, but not on the other inputs; only the standard input can be taken just once, and
is empty behind that.  If reports are printed, a run prints and records the analyses among
the outcomes of its inputs, in the order of the inputs and within a folder in the order of
discovery.  Nothing gets lost, is printed twice or changes its place, and an outcome that
is an error leaves its mark on the exit status only.

The induction goes over the inputs.  What carries it is that an input that is taken leaves
the files as they were, so that the outcomes of the inputs behind it can be told
beforehand.
-/

namespace TableLexer

namespace Task

/-- The outcomes that an input stands for, if the text is what the standard input gives. -/
def outcomesOf
    (t : Task) (files : FileTree) (language : Option Language)
    (source text : String) :
    List (Except AnalysisError Analysis) :=
  if text = "-" then
    language.toList.map fun l => .ok (t.analysis source l)
  else
    match Discovery.folder? files ⟨text⟩ with
    | some tree =>
      (Discovery.belowAll language (!t.arguments.noRecursive) ⟨text⟩ tree.children).map
        (t.outcome files language)
    | none => [t.outcome files language ⟨text⟩]

/-- The outcomes that inputs stand for; the first of them that is the standard input takes
all of it. -/
def outcomesOfAll
    (t : Task) (files : FileTree) (language : Option Language) :
    String → List String → List (Except AnalysisError Analysis)
  | _, [] => []
  | source, text :: rest =>
    t.outcomesOf files language source text ++
      outcomesOfAll t files language (if text = "-" then "" else source) rest

end Task

namespace Session

variable {t : Task} {language : Option Language}

/-- What is left of the standard input behind an input. -/
def inputBehind (text : String) (input : ByteArray) : ByteArray :=
  if text = "-" then ByteArray.empty else input

/-- An input has its outcomes, if it can be taken. -/
theorem leads_analyzeOne
    (hprints : t.Prints)
    (hoff : t.arguments.failFast = false)
    {s : Session} {text source : String}
    (hinput : text = "-" → language ≠ none ∧ String.fromUTF8? s.input = some source)
    (hfolders :
      text ≠ "-" → ∀ tree, Discovery.folder? s.files ⟨text⟩ = some tree →
        Discovery.belowAll language (!t.arguments.noRecursive) ⟨text⟩ tree.children ≠ []) :
    let outcomes := t.outcomesOf s.files language source text
    Leads (analyzeOne t language text) s (.ok (allWell outcomes))
      ({ s with input := inputBehind text s.input }.received t.format
        (analysesOf outcomes)) := by
  intro outcomes
  by_cases htext : text = "-"
  · subst htext
    obtain ⟨hlanguage, hsource⟩ := hinput rfl
    cases language with
    | none =>
        exact absurd rfl hlanguage
    | some l =>
        have houtcomes : outcomes = [.ok (t.analysis source l)] := by
          simp [outcomes, Task.outcomesOf]
        rw [houtcomes, allWell_ok, analysesOf_ok, inputBehind, if_pos rfl]
        exact leads_analyzeOne_of_input (leads_analyzeInput hprints hsource l)
  · rw [inputBehind, if_neg htext]
    cases hfolder : Discovery.folder? s.files ⟨text⟩ with
    | none =>
        have houtcomes : outcomes = [t.outcome s.files language ⟨text⟩] := by
          simp [outcomes, Task.outcomesOf, htext, hfolder]
        have hfile : s.files.hasFolder ⟨text⟩ = false := by
          rw [Discovery.hasFolder_eq, hfolder]
          rfl
        rw [houtcomes]
        exact leads_analyzeOne_of_file htext hfile
          (leads_analyzeFile hprints language s ⟨text⟩)
    | some tree =>
        have houtcomes :
            outcomes
              =
            (Discovery.candidates (t.batch language) ⟨text⟩ tree).map
              (t.outcome s.files language) := by
          simp [outcomes, Task.outcomesOf, htext, hfolder,
            Discovery.candidates, Task.batch]
        have hfound : s.files.hasFolder ⟨text⟩ = true := by
          rw [Discovery.hasFolder_eq, hfolder]
          rfl
        rw [houtcomes]
        exact leads_analyzeOne_of_folder htext hfound
          (leads_analyzeDirectory hprints hoff hfolder (hfolders htext tree hfolder))

/-- Inputs have their outcomes one after the other. -/
theorem leads_analyzeAll
    (hprints : t.Prints)
    (hoff : t.arguments.failFast = false)
    {s : Session} {source : String} {texts : List String}
    (hinput : "-" ∈ texts → language ≠ none ∧ String.fromUTF8? s.input = some source)
    (hfolders :
      ∀ text ∈ texts, text ≠ "-" → ∀ tree, Discovery.folder? s.files ⟨text⟩ = some tree →
        Discovery.belowAll language (!t.arguments.noRecursive) ⟨text⟩ tree.children ≠ []) :
    let outcomes := t.outcomesOfAll s.files language source texts
    ∃ left,
      Leads (analyzeAll t language texts) s (.ok (allWell outcomes))
        ({ s with input := left }.received t.format (analysesOf outcomes)) := by
  induction texts generalizing s source with
  | nil =>
      refine ⟨s.input, ?_⟩
      simpa [Task.outcomesOfAll, analyzeAll, allWell, analysesOf] using leads_pure true s
  | cons text rest ih =>
      have hone :=
        leads_analyzeOne hprints hoff (fun h => hinput (h ▸ List.mem_cons_self))
          (hfolders text List.mem_cons_self)
      let first := analysesOf (t.outcomesOf s.files language source text)
      have hbehind :
          "-" ∈ rest → language ≠ none ∧
            String.fromUTF8? (inputBehind text s.input)
              = some (if text = "-" then "" else source) := by
        intro hmem
        obtain ⟨hlanguage, hsource⟩ := hinput (List.mem_cons_of_mem text hmem)
        refine ⟨hlanguage, ?_⟩
        unfold inputBehind
        split
        · rfl
        · exact hsource
      obtain ⟨left, hrest⟩ :=
        ih (s := { s with input := inputBehind text s.input }.received t.format first)
          hbehind fun text htext => hfolders text (List.mem_cons_of_mem _ htext)
      refine ⟨left, ?_⟩
      have hall := leads_analyzeAll_cons hone hrest
      simpa [Task.outcomesOfAll, received, Except.map, first,
        String.append_assoc] using hall

/-! ## The listing of the history -/

theorem run_complainLines
    (lines : List String) (s : Session) :
    (complainLines lines).run.run s
      =
    (.ok (),
      { s with err := s.err ++ String.join (lines.map fun line => line ++ "\n") }) := by
  induction lines generalizing s with
  | nil =>
      simp [complainLines]
      rfl
  | cons line rest ih =>
      have hfirst :
          (complain line).run.run s = (.ok (), { s with err := s.err ++ line ++ "\n" }) :=
            rfl
      rw [complainLines, run_bind_of_ok hfirst, ih]
      simp [String.append_assoc]

theorem run_closing
    {t : Task}
    (hhistory : t.arguments.history = true)
    (ok : Bool) (s : Session) :
    (closing t ok).run.run s
      =
    (.ok ok, { s with
      err := s.err ++ String.join (s.history.listing.map fun line => line ++ "\n") }) := by
  have hget : (get : Step Session).run.run s = (.ok s, s) := rfl
  rw [closing, if_pos hhistory, run_bind_of_ok hget,
    run_bind_of_ok (run_complainLines _ s)]
  rfl

/-- The listing of the history is the last thing that is said, if it is asked for. -/
theorem err_finish
    {setting : Setting} {a : Arguments} {s s' : Session} {ok : Bool}
    {settings : Settings} {language : Option Language}
    (houtput : a.output = none)
    (hhistory : a.history = true)
    (hprepare : prepare setting a s.files = .ok (settings, language))
    (h : Leads (analyzeAll (taskFor setting a settings) language a.inputs) s (.ok ok) s') :
    ∃ said,
      (finish setting a s).2.err
        = said ++ String.join (s'.history.listing.map fun line => line ++ "\n") := by
  obtain ⟨hsettings, hlanguage⟩ := prepare_eq_ok hprepare
  have hload := leads_settingsOf setting a s
  rw [hsettings] at hload
  have hopening := @leads_opening (taskFor setting a settings) houtput s
  have hfor : languageFor (taskFor setting a settings).arguments = .ok language :=
    hlanguage
  rw [hfor] at hopening
  obtain ⟨u, hrun, hu⟩ := hload s (Alike.refl s)
  obtain ⟨v, hopened, hv⟩ := hopening u hu
  obtain ⟨w, hinputs, hw⟩ := h v hv
  have hclosed := @run_closing (taskFor setting a settings) hhistory ok w
  have hall :
      (run setting a).run.run s = (closing (taskFor setting a settings) ok).run.run w := by
    rw [run, run_bind_of_ok hrun]
    change (work (taskFor setting a settings)).run.run u = _
    rw [work_eq, run_bind_of_ok hopened]
    exact run_bind_of_ok hinputs
  refine ⟨w.err, ?_⟩
  rw [finish, hall, hclosed, hw.history]

/-! ## Runs -/

theorem execute_of_run
    {setting : Setting} {args : List String} {a : Arguments} {s : Session}
    (hargs : Arguments.parse args = .run a) :
    execute setting args s = finish setting a s := by
  rw [execute, hargs]

/-- However the workers of a batch take turns, its outcomes are those of the folder's
files, up to the times of the analyses. -/
theorem outcomes_of_mayGive
    (hoff : t.arguments.failFast = false)
    {files tree : FileTree} {p : Path} {given : Except BatchError BatchResults}
    (hfolder : Discovery.folder? files p = some tree)
    (hfound : Discovery.candidates (t.batch language) p tree ≠ [])
    (hgiven : Batch.MayGive (t.batch language) t.pipeline files p given) :
    ∃ outcomes,
      given = .ok (.ofOutcomes outcomes.length outcomes) ∧
      outcomes.map Outcome.undated
        = (Discovery.candidates (t.batch language) p tree).map fun q =>
            Outcome.undated ⟨q, t.outcome files language q⟩ := by
  obtain ⟨scope, hgiven⟩ := hgiven
  have hdiscover :
      (Discovery.discover (t.batch language) files p).value scope
        =
      .ok (Discovery.candidates (t.batch language) p tree) := by
    rw [Discovery.value_discover rfl hfolder, if_neg]
    rwa [List.isEmpty_iff]
  rw [hdiscover] at hgiven
  obtain ⟨outcomes, houtcomes, rfl⟩ := hgiven
  have hbatch : (t.batch language).failFast = false := hoff
  have hall := Batch.forall₂_of_mayReport hbatch houtcomes
  have hundated := Batch.map_undated_eq ⟨t.now, none⟩ hall
  refine ⟨outcomes, by rw [hall.length_eq], ?_⟩
  exact hundated

/--
A run is the composition of its inputs.  Let reports be printed and no failure stop a
batch, let the settings load and the language be one if it is given, let every folder have
a source file, and let the standard input be asked for with a language only and be text.
Then the output is the renderings of the analyses among the outcomes, in their order, each
with a line feed behind it in JSON.  The exit status is success if there is no error among
the outcomes, and failure otherwise.  The history is what recording the analyses in this
order makes of a new one, and if it is to be listed, the listing is the last thing that is
said.  No file is touched.  However many workers a folder has and in whatever order they
take turns, up to times its batch has the same outcomes.
-/
theorem run_is_composition
    (setting : Setting) (args : List String) (a : Arguments)
    (files : FileTree) (input : ByteArray) (source : String)
    (settings : Settings) (language : Option Language)
    (hargs : Arguments.parse args = .run a)
    (houtput : a.output = none)
    (hdownload : a.download = none)
    (hstats : a.stats = false)
    (hoff : a.failFast = false)
    (hsettings : settingsFor setting a files = .ok settings)
    (hlanguage : languageFor a = .ok language)
    (hinput : "-" ∈ a.inputs → language ≠ none ∧ String.fromUTF8? input = some source)
    (hfolders :
      ∀ text ∈ a.inputs, text ≠ "-" → ∀ tree, Discovery.folder? files ⟨text⟩ = some tree →
        Discovery.belowAll language (!a.noRecursive) ⟨text⟩ tree.children ≠ []) :
    let t := taskFor setting a settings
    let outcomes := t.outcomesOfAll files language source a.inputs
    let analyses := analysesOf outcomes
    let history :=
      analyses.foldl (fun h x => (h.record ⟨x.source, x.language, x.timestamp⟩).1) .new
    let ended := execute setting args { files := files, input := input }
    ended.2.out
      = String.join (analyses.map fun x =>
          x.render t.format ++ (if t.format = .json then "\n" else "")) ∧
    ended.1 = (if allWell outcomes then 0 else 1) ∧
    ended.2.history = history ∧
    (a.history = true →
      ∃ said,
        ended.2.err = said ++ String.join (history.listing.map fun line => line ++ "\n")) ∧
    ended.2.files = files ∧
    ended.2.written = [] ∧
    ∀ text ∈ a.inputs, text ≠ "-" → ∀ tree, Discovery.folder? files ⟨text⟩ = some tree →
      ∀ given, Batch.MayGive (t.batch language) t.pipeline files ⟨text⟩ given →
        ∃ os,
          given = .ok (.ofOutcomes os.length os) ∧
          os.map Outcome.undated
            = (Discovery.belowAll language (!a.noRecursive) ⟨text⟩
                tree.children).map fun q =>
                  Outcome.undated ⟨q, t.outcome files language q⟩ := by
  intro t outcomes analyses history ended
  have hprepare : prepare setting a files = .ok (settings, language) := by
    rw [prepare, hsettings, hlanguage]
    rfl
  have hended : ended = finish setting a { files := files, input := input } :=
    execute_of_run hargs
  obtain ⟨left, hleads⟩ :=
    @leads_analyzeAll t language ⟨houtput, hdownload, hstats⟩ hoff
      { files := files, input := input } source a.inputs hinput hfolders
  have hfinish :=
    @finish_of_inputs setting a { files := files, input := input } _ settings language _
      houtput hprepare hleads
  rw [← hended] at hfinish
  refine ⟨?_, ?_, hfinish.2.history, ?_, hfinish.2.files, hfinish.2.written, ?_⟩
  · rw [hfinish.2.out]
    simp [received, printedReport, analyses, outcomes]
  · rw [hfinish.1]
    cases allWell (t.outcomesOfAll files language source a.inputs) <;> rfl
  · intro hhistory
    have herr :=
      @err_finish setting a { files := files, input := input } _ _ settings language
        houtput hhistory hprepare hleads
    rw [← hended] at herr
    exact herr
  · intro text htext hfile tree hfolder given hgiven
    exact outcomes_of_mayGive hoff hfolder (hfolders text htext hfile tree hfolder) hgiven

/-- A run over the standard input, a folder with a good and a bad file, and a missing
file. -/
theorem run_is_composition_mixed :
    let args := ["-l", "c", "--history", "-", "src", "gone.c", "-"]
    let a : Arguments :=
      { inputs := ["-", "src", "gone.c", "-"], language := some "c", history := true }
    let files : FileTree :=
      .folder [("src", .folder [("a.c", .file ⟨#[]⟩), ("b.c", .file ⟨#[0xff]⟩)])]
    let t := taskFor ⟨[], .epoch, 4⟩ a (.ofEnvironment [])
    let outcomes := t.outcomesOfAll files (some .c) "x" a.inputs
    let ended := execute ⟨[], .epoch, 4⟩ args { files := files, input := ⟨#[0x78]⟩ }
    Arguments.parse args = .run a ∧
    settingsFor ⟨[], .epoch, 4⟩ a files = .ok (.ofEnvironment []) ∧
    languageFor a = .ok (some .c) ∧
    String.fromUTF8? ⟨#[0x78]⟩ = some "x" ∧
    ended.2.out
      = String.join ((analysesOf outcomes).map fun x =>
          x.render t.format ++ (if t.format = .json then "\n" else "")) ∧
    ended.1 = (if allWell outcomes then 0 else 1) := by
  have hargs :
      Arguments.parse ["-l", "c", "--history", "-", "src", "gone.c", "-"]
        =
      .run
        { inputs := ["-", "src", "gone.c", "-"], language := some "c",
          history := true } := by
    decide +kernel
  have hlanguage :
      languageFor
          { inputs := ["-", "src", "gone.c", "-"], language := some "c", history := true }
        =
      .ok (some .c) := by
    have hparse : Language.parse "c" = .ok .c := by decide +kernel
    simp only [languageFor, hparse]
  have hinput : String.fromUTF8? ⟨#[0x78]⟩ = some "x" := by
    decide +kernel
  have hsource :
      Discovery.folder?
          (.folder [("src", .folder [("a.c", .file ⟨#[]⟩), ("b.c", .file ⟨#[0xff]⟩)])])
            ⟨"src"⟩
        =
      some (.folder [("a.c", .file ⟨#[]⟩), ("b.c", .file ⟨#[0xff]⟩)]) := by
    rfl
  have hgone :
      Discovery.folder?
          (.folder [("src", .folder [("a.c", .file ⟨#[]⟩), ("b.c", .file ⟨#[0xff]⟩)])])
          ⟨"gone.c"⟩
        =
      none := by
    rfl
  have hfound :
      Discovery.belowAll (some .c) true ⟨"src"⟩
          [("a.c", .file ⟨#[]⟩), ("b.c", .file ⟨#[0xff]⟩)]
        =
      [⟨"src/a.c"⟩, ⟨"src/b.c"⟩] := by
    decide +kernel
  have hfolders :
      ∀ text ∈ ["-", "src", "gone.c", "-"], text ≠ "-" → ∀ tree,
        Discovery.folder?
            (.folder [("src", .folder [("a.c", .file ⟨#[]⟩), ("b.c", .file ⟨#[0xff]⟩)])])
              ⟨text⟩
          = some tree →
        Discovery.belowAll (some .c) true ⟨text⟩ tree.children ≠ [] := by
    intro text htext hfile tree htree
    have hcases : text = "src" ∨ text = "gone.c" := by simpa [hfile] using htext
    rcases hcases with rfl | rfl
    · rw [hsource] at htree
      cases htree
      change Discovery.belowAll (some .c) true ⟨"src"⟩
        [("a.c", .file ⟨#[]⟩), ("b.c", .file ⟨#[0xff]⟩)] ≠ []
      rw [hfound]
      exact List.cons_ne_nil _ _
    · rw [hgone] at htree
      cases htree
  have hrun :=
    run_is_composition ⟨[], .epoch, 4⟩ _ _ _ ⟨#[0x78]⟩ "x" (.ofEnvironment []) (some .c)
      hargs rfl rfl rfl rfl rfl hlanguage (fun _ => ⟨by simp, hinput⟩) hfolders
  exact ⟨hargs, rfl, hlanguage, hinput, hrun.1, hrun.2.1⟩

theorem prepare_of_unreadable
    {setting : Setting} {a : Arguments} {files : FileTree} {file : String}
    {e : SystemError}
    (hconfig : a.config = some file)
    (hread : files.readText ⟨file⟩ = .error e) :
    prepare setting a files =
      .error (SettingsError.unreadable file e.message).message := by
  have hsettings :
      settingsFor setting a files =
        .error (SettingsError.unreadable file e.message).message := by
    rw [settingsFor, hconfig]
    simp only [Settings.load, hread]
  rw [prepare, hsettings]
  rfl

/-- Settings that do not load end a run before its inputs, although no file of them
fails. -/
theorem run_is_nothing_without_settings :
    let args := ["--config", "gone.toml", "a.c"]
    let a : Arguments := { inputs := ["a.c"], config := some "gone.toml" }
    let files : FileTree := .folder [("a.c", .file ⟨#[]⟩)]
    let t := taskFor ⟨[], .epoch, 4⟩ a (.ofEnvironment [])
    let ended := execute ⟨[], .epoch, 4⟩ args { files := files, input := .empty }
    Arguments.parse args = .run a ∧
    languageFor a = .ok none ∧
    Discovery.folder? files ⟨"a.c"⟩ = none ∧
    allWell (t.outcomesOfAll files none "" a.inputs) = true ∧
    ended.1 = 1 ∧
    ended.2.out = "" := by
  have hargs :
      Arguments.parse ["--config", "gone.toml", "a.c"]
        =
      .run { inputs := ["a.c"], config := some "gone.toml" } := by
    decide +kernel
  have hget : FileTree.get (.folder [("a.c", .file ⟨#[]⟩)]) ⟨"gone.toml"⟩ =
      .error .notFound := by
    rfl
  have hread :
      FileTree.readText (.folder [("a.c", .file ⟨#[]⟩)]) ⟨"gone.toml"⟩ =
        .error .notFound := by
    rw [FileTree.readText, FileTree.readBytes, hget]
  have hfile : Discovery.folder? (.folder [("a.c", .file ⟨#[]⟩)]) ⟨"a.c"⟩ = none := by
    rfl
  have hwell :
      allWell ((taskFor ⟨[], .epoch, 4⟩ { inputs := ["a.c"], config := some "gone.toml" }
        (.ofEnvironment [])).outcomesOfAll (.folder [("a.c", .file ⟨#[]⟩)])
          none "" ["a.c"])
        =
      true := by
    decide +kernel
  have hended :=
    @finish_of_refused ⟨[], .epoch, 4⟩ { inputs := ["a.c"], config := some "gone.toml" }
      { files := .folder [("a.c", .file ⟨#[]⟩)], input := .empty } _ rfl
      (prepare_of_unreadable rfl hread)
  rw [← execute_of_run hargs] at hended
  exact ⟨hargs, rfl, hfile, hwell, hended.1, hended.2.out⟩

end Session
end TableLexer
