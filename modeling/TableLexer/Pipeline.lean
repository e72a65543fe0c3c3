import TableLexer.Analysis
import TableLexer.Scan
import TableLexer.SourceFile

/-!
# Analyzing sources and files

From a source or a file to its analysis.  The language of a file is the one that is given,
or else the one that its extension implies; only with a given language any extension is
accepted.
-/

namespace TableLexer

/-- Why there is no analysis. -/
inductive AnalysisError where
  | source (e : SourceError)
  | language (e : UnknownLanguage)
  | undetermined (path : String)
deriving DecidableEq, Repr

namespace AnalysisError

/-- The diagnostic code of the error. -/
def code : AnalysisError → Code
  | source e => e.code
  | language e => e.code
  | undetermined _ => .undeterminedLanguage

/-- The error for the reader. -/
def message : AnalysisError → String
  | source e => "File processing failed: " ++ e.message
  | language e => "Scan failed: " ++ e.message
  | undetermined path =>
    "Cannot determine the language of " ++ path ++ "; specify one explicitly"

end AnalysisError

/-- How sources and files are analyzed. -/
structure Pipeline where
  scan : ScanSettings
  files : FileSettings
deriving DecidableEq, Repr

namespace Pipeline

/-- The pipeline of an environment, with the scan settings that hold in any environment. -/
def ofEnvironment (env : Environment) : Pipeline :=
  ⟨.fixed, .ofEnvironment env⟩

/-- The pipeline of all settings. -/
def ofSettings (s : Settings) : Pipeline :=
  ⟨s.scan, s.files⟩

/-- The analysis of a source. -/
def analyzeSource (p : Pipeline) (source : String) (language : Language) :
    Logged Analysis := do
  let output ← scanLanguage p.scan source language
  let now ← Logged.now
  return .ofTokens output.language now source output.tokens

/-- How the pipeline takes files in. -/
def intake (p : Pipeline) (language : Option Language) : Intake :=
  ⟨p.files.inferLanguage, language.isNone⟩

/-- The analysis of a file that has been taken in. -/
def analyzeLoaded (p : Pipeline) (language : Option Language) (f : SourceFile) :
    Logged (Except AnalysisError Analysis) :=
  match language.or f.language with
  | some l => do
    let analysis ← p.analyzeSource f.source l
    return .ok analysis
  | none => do
    let e := AnalysisError.undetermined f.path.text
    Logged.error e.code "No language for file" [("extension", f.extension.getD "none")]
    return .error e

/-- The analysis of the file that a path leads to. -/
def analyzeFile (p : Pipeline) (root : FileTree) (path : Path)
    (language : Option Language) : Logged (Except AnalysisError Analysis) :=
  Logged.within path.text do
    Logged.say .info "Analyzing file"
      [("language", (language.map Language.name).getD "auto")]
    match ← SourceFile.load (p.intake language) root path with
    | .error e => return .error (.source e)
    | .ok f => p.analyzeLoaded language f

/-- The analysis of a source in a language given by its identifier. -/
def analyzeNamed (source identifier : String) : Logged (Except AnalysisError Analysis) :=
  match Language.parse identifier with
  | .error e => return .error (.language e)
  | .ok language => do
    let analysis ← analyzeSource ⟨.fixed, ⟨true⟩⟩ source language
    return .ok analysis

end Pipeline
end TableLexer
