import TableLexer.Diagnostic.Log
import TableLexer.Files.Tree
import TableLexer.Language
import TableLexer.Statistics

/-!
# Analyses and their reports

An analysis is a source with its tokens, its statistics, its language and a time.  It is
rendered as a text report or as indented JSON, and a report is written over a file of a
given name or into a directory under the first free name.
-/

namespace TableLexer

/-- The two forms of a report. -/
inductive ReportFormat where
  | text
  | json
deriving DecidableEq, Repr

/-- The extension of a report's file. -/
def ReportFormat.extension : ReportFormat → String
  | text => "txt"
  | json => "json"

/-- A report that could not be written. -/
structure ReportError where
  path : String
  reason : SystemError
deriving DecidableEq, Repr

namespace ReportError

/-- The diagnostic code of the error. -/
def code (_ : ReportError) : Code :=
  .reportWriteFailed

/-- The error for the reader. -/
def message (e : ReportError) : String :=
  "Cannot write report to " ++ e.path ++ ": " ++ e.reason.message

end ReportError

/-- A scanned source with its statistics. -/
structure Analysis where
  language : Language
  timestamp : Timestamp
  source : String
  tokens : List Token
  statistics : Statistics
deriving DecidableEq, Repr

namespace Analysis

/-- The analysis of a source with its tokens. -/
def ofTokens (language : Language) (timestamp : Timestamp) (source : String)
    (tokens : List Token) : Analysis :=
  ⟨language, timestamp, source, tokens, .ofTokens tokens source⟩

/-- The beginning of a report's file name. -/
def fileStem (a : Analysis) : String :=
  "lexical-analysis-" ++ toString a.timestamp.unixMillis

/-- The name of a report's file. -/
def fileName (a : Analysis) (format : ReportFormat) : String :=
  a.fileStem ++ "." ++ format.extension

/-- The name of a report's file after a number of names that were taken. -/
def numberedName (a : Analysis) (format : ReportFormat) : Nat → String
  | 0 => a.fileName format
  | n + 1 => a.fileStem ++ "-" ++ toString (n + 1) ++ "." ++ format.extension

/-- The lines of the text report that show the tokens. -/
def tokenLines (tokens : List Token) : String :=
  String.join (tokens.map fun t => t.display ++ "\n")

/-- The last part of the text report. -/
def statisticsText (s : Statistics) : String :=
  "\nSTATISTICS:\nTotal tokens: " ++ toString s.total ++
    "\nLines of code: " ++ toString s.lines ++
    "\nToken types: " ++ s.counts.render ++
    "\nMost common token: " ++ s.dominantSummary ++ "\n"

/-- The text report. -/
def renderText (a : Analysis) : String :=
  "Lexical Analysis Results\nLanguage: " ++ a.language.displayName ++
    "\nTimestamp: " ++ a.timestamp.formatMillis ++
    "\n\nCODE:\n" ++ a.source ++ "\n\nTOKENS:\n" ++ tokenLines a.tokens ++
    statisticsText a.statistics

/-- The analysis in JSON. -/
def toJson (a : Analysis) : Json :=
  .ofFields
    [("language", a.language.toJson), ("timestamp", .ofText a.timestamp.formatMillis),
     ("source", .ofText a.source), ("tokens", .array (a.tokens.map Token.toJson)),
     ("statistics", a.statistics.toJson)]

/-- The report in a format. -/
def render (a : Analysis) : ReportFormat → String
  | .text => a.renderText
  | .json => a.toJson.indented

/-- Reports that a file could not be written. -/
def logFailure (p : Path) (reason : SystemError) : Logged ReportError := do
  Logged.error .reportWriteFailed "Report write failed"
    [("path", p.text), ("io_error", reason.message)]
  return ⟨p.text, reason⟩

/-- Reports that a file was written. -/
def logWritten (a : Analysis) (p : Path) (format : ReportFormat) : Logged Unit :=
  Logged.success .reportWritten "Report written"
    [("path", p.text), ("format", format.extension),
     ("tokens", toString a.statistics.total)]

/-- The tree with the report in a file, in place of the file that was there. -/
def writeTo (a : Analysis) (root : FileTree) (p : Path) (format : ReportFormat) :
    Logged (Except ReportError FileTree) :=
  match root.write p (a.render format).toUTF8 with
  | .ok root => do
    a.logWritten p format
    return .ok root
  | .error reason => do
    let e ← logFailure p reason
    return .error e

/--
The first name of the report that is free in a directory, from a number of taken names on,
and the tree with the report there.  The second number bounds the names that are tried.
-/
def createFrom (a : Analysis) (root : FileTree) (directory : Path) (format : ReportFormat)
    (taken : Nat) : Nat → Path × Except SystemError FileTree
  | 0 =>
    let p := directory.join (a.numberedName format taken)
    (p, root.create p (a.render format).toUTF8)
  | n + 1 =>
    let p := directory.join (a.numberedName format taken)
    match root.create p (a.render format).toUTF8 with
    | .error .alreadyExists => createFrom a root directory format (taken + 1) n
    | outcome => (p, outcome)

/-- The number of children of the folder into which a path puts names; the empty path is
the root. -/
def childCount (root : FileTree) (p : Path) : Nat :=
  match root.get (if p.text.isEmpty then ⟨"."⟩ else p) with
  | .ok t => t.children.length
  | .error _ => 0

/--
The tree with the report in a new file of a directory, and the path of that file.  A
directory with `n` children leaves one of the first `n + 1` names free.
-/
def writeToDirectory (a : Analysis) (root : FileTree) (directory : Path)
    (format : ReportFormat) : Logged (Except ReportError (FileTree × Path)) :=
  match a.createFrom root directory format 0 (childCount root directory) with
  | (p, .ok root) => do
    a.logWritten p format
    return .ok (root, p)
  | (p, .error reason) => do
    let e ← logFailure p reason
    return .error e

end Analysis
end TableLexer
