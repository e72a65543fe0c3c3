import TableLexer.Pipeline

/-!
# What the system answers about a file

A file is analyzed by two answers of the system: what is said about the file when it is
looked up, and what its bytes are when it is read.  The system may answer anything each
time (`FileAnswers`): a file can be there and yet not be read, can be neither a regular
file nor a folder, or can be another one a moment later.  The answers about a file in a
tree are the case in which the analysis runs (`Pipeline.analyzeFile_eq`).
-/

namespace TableLexer

/-- What the system answers when it is asked about a file, any failure told in the words of
source files. -/
structure FileAnswers where
  /-- The number of bytes, if it is a regular file. -/
  size : Except SourceError (Option Nat)
  /-- The bytes. -/
  bytes : Except SourceError ByteArray

/-- The answers about a path in a tree. -/
def FileAnswers.ofTree
    (root : FileTree)
    (p : Path) :
    FileAnswers :=
  match root.get p with
  | .error e => ⟨.error (.ofSystem p e), .error (.ofSystem p e)⟩
  | .ok (.folder _) => ⟨.ok none, .error (.ofSystem p .isDirectory)⟩
  | .ok (.file content) => ⟨.ok (some content.size), .ok content⟩

namespace SourceFile

/-- Takes in a file by what the system answers about it. -/
def loadFrom
    (intake : Intake)
    (answers : FileAnswers)
    (p : Path) :
    Logged (Except SourceError SourceFile) := do
  Logged.say .debug "Starting file processing" [("file", p.text)]
  match answers.size with
  | .error e => refuse p e "Cannot read file metadata" [("error", e.message)]
  | .ok none =>
    let e := SourceError.io (p.text ++ " is not a regular file")
    refuse p e "Cannot read file metadata" [("error", e.message)]
  | .ok (some size) =>
    let extension := extensionOf p
    if intake.requireExtension && !hasSupportedExtension extension then
      refuse p (.unsupportedExtension extension) "Unsupported file extension"
        [("extension", extension.getD "none")]
    else if size > maxSourceBytes then
      refuse p (.tooLarge size) "File exceeds maximum source size"
        [("size_bytes", toString size), ("max_size_bytes", toString maxSourceBytes)]
    else
      match answers.bytes.bind fun content =>
          (String.fromUTF8? content).elim
            (.error (SourceError.invalidEncoding p.text)) .ok with
      | .error e => refuse p e "Cannot read file contents" [("error", e.message)]
      | .ok source =>
        let language := impliedLanguage intake extension
        let f : SourceFile := ⟨p, size, extension, language, source⟩
        Logged.success .fileProcessed "File processed successfully"
          [("file", p.text), ("size", humanSize f.size), ("lines", toString f.lines),
           ("language", (language.map Language.name).getD "none"),
           ("duration_ms", showMillis 0)]
        return .ok f

/-- With the answers of a tree a file is taken in from the tree. -/
theorem load_eq
    (intake : Intake) (root : FileTree) (p : Path) :
    load intake root p = loadFrom intake (.ofTree root p) p := by
  unfold load loadFrom contentOf FileAnswers.ofTree
  cases root.get p with
  | error e =>
      rfl
  | ok node =>
      cases node with
      | folder children =>
          rfl
      | file content =>
          simp only [Except.bind]
          cases String.fromUTF8? content <;> rfl

end SourceFile

namespace Pipeline

variable (pipeline : Pipeline)

/-- The analysis of a file by what the system answers about it. -/
def analyzeFileFrom
    (answers : FileAnswers)
    (path : Path)
    (language : Option Language) :
    Logged (Except AnalysisError Analysis) :=
  Logged.within path.text do
    Logged.say .info "Analyzing file"
      [("language", (language.map Language.name).getD "auto")]
    match ← SourceFile.loadFrom (pipeline.intake language) answers path with
    | .error e => return .error (.source e)
    | .ok f => pipeline.analyzeLoaded language f

theorem analyzeFile_eq
    (root : FileTree) (path : Path)
    (language : Option Language) :
    pipeline.analyzeFile root path language
      =
    pipeline.analyzeFileFrom (.ofTree root path) path language := by
  unfold analyzeFile
  rw [SourceFile.load_eq]
  rfl

end Pipeline

end TableLexer
