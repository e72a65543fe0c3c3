/-!
# Diagnostic codes

Every code that the program reports, with the subsystem it belongs to, how severe it is,
what a caller should do after seeing it, and two sentences for the reader.  A code outside
the registry can still be reported; it counts as a recoverable one of medium severity.
-/

namespace TableLexer

/-- A diagnostic code, such as `E020`. -/
structure Code where
  text : String
deriving DecidableEq, Repr

namespace Code

/-- How much a diagnostic matters. -/
inductive Severity where
  | critical
  | high
  | medium
  | low
deriving DecidableEq, Repr

/-- The name of a severity. -/
def Severity.name : Severity → String
  | critical => "Critical"
  | high => "High"
  | medium => "Medium"
  | low => "Low"

/-- The subsystem that a diagnostic belongs to. -/
inductive Category where
  | system
  | fileProcessing
  | lexical
  | ruleTable
  | report
  | batch
  | configuration
deriving DecidableEq, Repr

/-- The name of a category. -/
def Category.name : Category → String
  | system => "System"
  | fileProcessing => "FileProcessing"
  | lexical => "Lexical"
  | ruleTable => "RuleTable"
  | report => "Report"
  | batch => "Batch"
  | configuration => "Configuration"

/-- What a caller should do after a diagnostic. -/
inductive Recovery where
  /-- Work can go on, possibly with degraded output. -/
  | goOn
  /-- The current input is lost; other inputs are not affected. -/
  | abandonInput
  /-- Nothing further can be done. -/
  | halt
deriving DecidableEq, Repr

/-- An internal error. -/
def internalError : Code := ⟨"ERR001"⟩
/-- Logging could not be set up. -/
def initializationFailure : Code := ⟨"ERR002"⟩
/-- A source file does not exist. -/
def fileNotFound : Code := ⟨"E005"⟩
/-- The extension of a file maps to no language. -/
def unsupportedExtension : Code := ⟨"E006"⟩
/-- A source file is larger than allowed. -/
def fileTooLarge : Code := ⟨"E007"⟩
/-- A source file may not be read. -/
def permissionDenied : Code := ⟨"E009"⟩
/-- A source file is not text. -/
def invalidEncoding : Code := ⟨"E010"⟩
/-- Reading a source file failed. -/
def ioError : Code := ⟨"E011"⟩
/-- There is no such language. -/
def unknownLanguage : Code := ⟨"E020"⟩
/-- No rule matched somewhere in a source. -/
def unmatchedInput : Code := ⟨"E021"⟩
/-- The language of an input cannot be told. -/
def undeterminedLanguage : Code := ⟨"E022"⟩
/-- A rule table has no rules. -/
def emptyDefinition : Code := ⟨"E030"⟩
/-- The pattern of a rule cannot be read. -/
def invalidPattern : Code := ⟨"E031"⟩
/-- The last rule of a table does not match everything. -/
def missingCatchAll : Code := ⟨"E032"⟩
/-- A report could not be written to a file. -/
def reportWriteFailed : Code := ⟨"E040"⟩
/-- A report could not be rendered. -/
def reportSerializationFailed : Code := ⟨"E041"⟩
/-- A directory does not exist. -/
def directoryNotFound : Code := ⟨"E050"⟩
/-- A directory holds no source file. -/
def noSourceFiles : Code := ⟨"E051"⟩
/-- A settings file could not be read. -/
def configReadFailed : Code := ⟨"E060"⟩
/-- A settings file could not be understood. -/
def configParseFailed : Code := ⟨"E061"⟩
/-- Logging is set up. -/
def initializationCompleted : Code := ⟨"I004"⟩
/-- A source file has been read. -/
def fileProcessed : Code := ⟨"I006"⟩
/-- A scan has ended. -/
def scanComplete : Code := ⟨"I020"⟩
/-- All rule tables are well formed. -/
def ruleTablesValidated : Code := ⟨"I021"⟩
/-- A report has been written. -/
def reportWritten : Code := ⟨"I040"⟩
/-- A batch has ended. -/
def batchComplete : Code := ⟨"I050"⟩

/-- What is known about a code. -/
structure Info where
  code : Code
  category : Category
  severity : Severity
  recovery : Recovery
  description : String
  action : String
deriving Repr

/-- What is known about every code that the program reports. -/
def registry : List Info :=
  [⟨internalError, .system, .critical, .halt, "Critical internal error",
    "File a bug report with the input that triggered it"⟩,
   ⟨initializationFailure, .system, .critical, .halt, "Logging could not be initialized",
    "Check logging configuration and environment variables"⟩,
   ⟨fileNotFound, .fileProcessing, .high, .abandonInput, "Source file not found",
    "Verify the path exists and is spelled correctly"⟩,
   ⟨unsupportedExtension, .fileProcessing, .medium, .goOn,
    "File extension does not map to a supported language",
    "Pass the language explicitly"⟩,
   ⟨fileTooLarge, .fileProcessing, .high, .abandonInput,
    "Source file exceeds the maximum input size",
    "Split the file or scan a smaller excerpt"⟩,
   ⟨permissionDenied, .fileProcessing, .high, .abandonInput,
    "Permission denied reading source file", "Check file permissions"⟩,
   ⟨invalidEncoding, .fileProcessing, .high, .abandonInput,
    "Source file is not valid UTF-8",
    "Convert the file to UTF-8 before scanning"⟩,
   ⟨ioError, .fileProcessing, .high, .abandonInput, "I/O error while reading source file",
    "Retry or check the storage device"⟩,
   ⟨unknownLanguage, .lexical, .high, .abandonInput,
    "Requested language has no rule table",
    "Use one of: c, python, java, javascript, html, css"⟩,
   ⟨unmatchedInput, .lexical, .low, .goOn,
    "No rule matched at the scan position; one character was skipped",
    "Check the language rule table for a missing catch-all rule"⟩,
   ⟨undeterminedLanguage, .lexical, .medium, .goOn,
    "Language could not be determined for input", "Pass the language explicitly"⟩,
   ⟨emptyDefinition, .ruleTable, .critical, .halt, "Language definition has no rules",
    "Add rules ending with a catch-all rule"⟩,
   ⟨invalidPattern, .ruleTable, .high, .goOn,
    "Rule pattern is not a valid regular expression",
    "Fix the pattern; the rule is skipped until then"⟩,
   ⟨missingCatchAll, .ruleTable, .high, .goOn,
    "Language definition does not end with a catch-all rule",
    "Append a rule matching any single character"⟩,
   ⟨reportWriteFailed, .report, .medium, .goOn, "Failed to write analysis report",
    "Check the output directory exists and is writable"⟩,
   ⟨reportSerializationFailed, .report, .medium, .goOn,
    "Failed to serialize analysis report",
    "Report the input that triggered the failure"⟩,
   ⟨directoryNotFound, .batch, .high, .abandonInput, "Batch input directory not found",
    "Verify the directory path"⟩,
   ⟨noSourceFiles, .batch, .medium, .goOn, "No supported source files found",
    "Check file extensions or pass a language explicitly"⟩,
   ⟨configReadFailed, .configuration, .high, .abandonInput,
    "Failed to read configuration file",
    "Verify the configuration path"⟩,
   ⟨configParseFailed, .configuration, .high, .abandonInput,
    "Configuration file is not valid TOML",
    "Fix the syntax reported in the error message"⟩,
   ⟨initializationCompleted, .system, .low, .goOn, "Logging initialized", "None"⟩,
   ⟨fileProcessed, .fileProcessing, .low, .goOn, "Source file read", "None"⟩,
   ⟨scanComplete, .lexical, .low, .goOn, "Scan completed", "None"⟩,
   ⟨ruleTablesValidated, .ruleTable, .low, .goOn, "All rule tables validated", "None"⟩,
   ⟨reportWritten, .report, .low, .goOn, "Analysis report written", "None"⟩,
   ⟨batchComplete, .batch, .low, .goOn, "Batch analysis completed", "None"⟩]

/-- The registered facts about a code. -/
def info? (code : Code) : Option Info :=
  registry.find? fun i => i.code = code

/-- The name of the code's category. -/
def category (code : Code) : String :=
  match code.info? with
  | some i => i.category.name
  | none => "Unknown"

/-- The code's severity. -/
def severity (code : Code) : Severity :=
  match code.info? with
  | some i => i.severity
  | none => .medium

/-- Work can go on after the code. -/
def isRecoverable (code : Code) : Bool :=
  match code.info? with
  | some i => i.recovery = .goOn
  | none => true

/-- Nothing further can be done after the code. -/
def requiresHalt (code : Code) : Bool :=
  match code.info? with
  | some i => i.recovery = .halt
  | none => false

/-- What the code means. -/
def description (code : Code) : String :=
  match code.info? with
  | some i => i.description
  | none => "Unknown error"

/-- What to do about the code. -/
def action (code : Code) : String :=
  match code.info? with
  | some i => i.action
  | none => "No specific action available"

end Code
end TableLexer
