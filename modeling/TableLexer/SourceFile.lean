import TableLexer.Diagnostic.Log
import TableLexer.Files.Tree
import TableLexer.Language
import TableLexer.Numeric.Rounding
import TableLexer.Statistics
import TableLexer.Text.Case
import TableLexer.Text.Quoted

/-!
# Source files

Taking a file in as source text.  The checks come in a fixed order, and the first one that
fails decides: the file exists and is a regular file, its extension is a known one if that
is asked for, it is not too large, it can be read, and it is text.
-/

namespace TableLexer

/-- The largest number of bytes that a source file may have. -/
def maxSourceBytes : Nat := 10 * 1024 * 1024

/-- The extensions of source files, in small letters. -/
def supportedExtensions : List String :=
  ["txt", "c", "h", "cpp", "py", "java", "js", "mjs", "cjs", "html", "htm", "css"]

/-- The extension is one of a source file; the case of ASCII letters does not matter. -/
def isSupportedExtension (extension : String) : Bool :=
  supportedExtensions.any fun e => Text.sameIgnoringAsciiCase e extension

/-- Why a file cannot be taken in. -/
inductive SourceError where
  | notFound (path : String)
  | unsupportedExtension (extension : Option String)
  | tooLarge (size : Nat)
  | permissionDenied (path : String)
  | invalidEncoding (path : String)
  | io (text : String)
deriving DecidableEq, Repr

namespace SourceError

/-- The diagnostic code of the error. -/
def code : SourceError → Code
  | notFound _ => .fileNotFound
  | unsupportedExtension _ => .unsupportedExtension
  | tooLarge _ => .fileTooLarge
  | permissionDenied _ => .permissionDenied
  | invalidEncoding _ => .invalidEncoding
  | io _ => .ioError

/-- The error for the reader. -/
def message : SourceError → String
  | notFound path => "File not found: " ++ path
  | unsupportedExtension extension =>
    "Unsupported file extension: " ++ Text.quotedOption extension
  | tooLarge size =>
    "File too large: " ++ toString size ++ " bytes (max: " ++
      toString maxSourceBytes ++ ")"
  | permissionDenied path => "Permission denied: " ++ path
  | invalidEncoding path => "Invalid UTF-8 encoding in file: " ++ path
  | io text => "I/O error reading file: " ++ text

/-- The error that a failure of the system means for a file. -/
def ofSystem (p : Path) : SystemError → SourceError
  | .notFound => notFound p.text
  | .permissionDenied => permissionDenied p.text
  | .badText => invalidEncoding p.text
  | e => io (p.text ++ ": " ++ e.message)

end SourceError

/-- How files are taken in. -/
structure Intake where
  /-- The extension of a file implies its language. -/
  inferLanguage : Bool
  /-- Only files with a known extension are accepted. -/
  requireExtension : Bool
deriving DecidableEq, Repr

/-- A file taken in as source text. -/
structure SourceFile where
  path : Path
  /-- The number of bytes of the file. -/
  size : Nat
  /-- The extension in small letters. -/
  extension : Option String
  /-- The language that the extension implies, if that is asked for. -/
  language : Option Language
  source : String
deriving DecidableEq, Repr

namespace SourceFile

/-- The number of lines of the source. -/
def lines (f : SourceFile) : Nat :=
  countLines f.source

/-- The source holds nothing but blanks. -/
def isBlank (f : SourceFile) : Bool :=
  Text.allBlank f.source.toList

/-- The bytes of the regular file that a path leads to. -/
def contentOf (root : FileTree) (p : Path) : Except SourceError ByteArray :=
  match root.get p with
  | .error e => .error (.ofSystem p e)
  | .ok (.folder _) => .error (.io (p.text ++ " is not a regular file"))
  | .ok (.file content) => .ok content

/-- The extension of a path in small letters. -/
def extensionOf (p : Path) : Option String :=
  p.extension?.map Text.lower

/-- The extension is one of a source file. -/
def hasSupportedExtension (extension : Option String) : Bool :=
  extension.any isSupportedExtension

/-- The language that an extension implies under an intake. -/
def impliedLanguage (intake : Intake) (extension : Option String) : Option Language :=
  if intake.inferLanguage then extension.bind Language.ofExtension? else none

/-- Reports an error with the file that it is about, and answers with it. -/
def refuse {α : Type} (p : Path) (e : SourceError) (text : String)
    (pairs : List (String × String)) : Logged (Except SourceError α) := do
  Logged.error e.code text (("file", p.text) :: pairs)
  return .error e

/-- Takes in the file that a path leads to. -/
def load (intake : Intake) (root : FileTree) (p : Path) :
    Logged (Except SourceError SourceFile) := do
  Logged.say .debug "Starting file processing" [("file", p.text)]
  match contentOf root p with
  | .error e => refuse p e "Cannot read file metadata" [("error", e.message)]
  | .ok content =>
    let extension := extensionOf p
    if intake.requireExtension && !hasSupportedExtension extension then
      refuse p (.unsupportedExtension extension) "Unsupported file extension"
        [("extension", extension.getD "none")]
    else if content.size > maxSourceBytes then
      refuse p (.tooLarge content.size) "File exceeds maximum source size"
        [("size_bytes", toString content.size),
         ("max_size_bytes", toString maxSourceBytes)]
    else
      match String.fromUTF8? content with
      | none =>
        let e := SourceError.invalidEncoding p.text
        refuse p e "Cannot read file contents" [("error", e.message)]
      | some source =>
        let language := impliedLanguage intake extension
        let f : SourceFile := ⟨p, content.size, extension, language, source⟩
        Logged.success .fileProcessed "File processed successfully"
          [("file", p.text), ("size", humanSize f.size), ("lines", toString f.lines),
           ("language", (language.map Language.name).getD "none"),
           ("duration_ms", showMillis 0)]
        return .ok f

end SourceFile
end TableLexer
