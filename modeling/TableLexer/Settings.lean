import TableLexer.Diagnostic.Level
import TableLexer.Files.Tree
import TableLexer.Toml.Reader

/-!
# Settings

Six settings in three sections.  Each one is resolved on its own: what the document says,
else what the environment says, else the fixed default.  A section of a document is a
table, or an array of the settings in their order; what the document has besides is
ignored.

What holds without the document is asked for twice: for all sections at once, of which
those stay that the document does not have, and for each section that it has, for the
settings not in it.
-/

namespace TableLexer

/-- How a source is scanned. -/
structure ScanSettings where
  /-- Line feeds inside emitted tokens move the line count on too. -/
  countNewlines : Bool
  /-- The end of a scan is logged. -/
  logMetrics : Bool
deriving DecidableEq, Repr

/-- How files are taken in. -/
structure FileSettings where
  /-- The extension of a file decides its language when none is given. -/
  inferLanguage : Bool
deriving DecidableEq, Repr

/-- How events are logged. -/
structure LogSettings where
  /-- Events are written as JSON. -/
  structured : Bool
  /-- Events are written at all. -/
  console : Bool
  /-- The least severe level that is written. -/
  threshold : Level
deriving DecidableEq, Repr

/-- All settings. -/
structure Settings where
  scan : ScanSettings
  files : FileSettings
  log : LogSettings
deriving DecidableEq, Repr

/-- The settings that a scan has in any environment. -/
def ScanSettings.fixed : ScanSettings :=
  ⟨false, true⟩

/-- The names of environment variables and their values. -/
abbrev Environment := List (String × String)

namespace Environment

/-- The value of a variable. -/
def value? (env : Environment) (name : String) : Option String :=
  env.lookup name

/-- The truth value of a variable, which counts only when it is exactly `true` or
`false`. -/
def flag? (env : Environment) (name : String) : Option Bool :=
  match env.value? name with
  | some "true" => some true
  | some "false" => some false
  | _ => none

/-- The level that a variable means. -/
def level? (env : Environment) (name : String) : Option Level :=
  (env.value? name).bind Level.parse?

end Environment

/-- The variable for `ScanSettings.countNewlines`. -/
def countNewlinesVariable : String := "LEXSCAN_COUNT_NEWLINES_IN_TOKENS"
/-- The variable for `ScanSettings.logMetrics`. -/
def logMetricsVariable : String := "LEXSCAN_LOG_SCAN_METRICS"
/-- The variable for `FileSettings.inferLanguage`. -/
def inferLanguageVariable : String := "LEXSCAN_INFER_LANGUAGE"
/-- The variable for `LogSettings.structured`. -/
def structuredVariable : String := "LEXSCAN_LOGGING_USE_STRUCTURED"
/-- The variable for `LogSettings.console`. -/
def consoleVariable : String := "LEXSCAN_LOGGING_ENABLE_CONSOLE"
/-- The variable for `LogSettings.threshold`. -/
def thresholdVariable : String := "LEXSCAN_LOGGING_MIN_LEVEL"

/-- The scan settings of an environment. -/
def ScanSettings.ofEnvironment (env : Environment) : ScanSettings :=
  ⟨(env.flag? countNewlinesVariable).getD fixed.countNewlines,
    (env.flag? logMetricsVariable).getD fixed.logMetrics⟩

/-- The file settings of an environment. -/
def FileSettings.ofEnvironment (env : Environment) : FileSettings :=
  ⟨(env.flag? inferLanguageVariable).getD true⟩

/-- The log settings of an environment. -/
def LogSettings.ofEnvironment (env : Environment) : LogSettings :=
  ⟨(env.flag? structuredVariable).getD false, (env.flag? consoleVariable).getD true,
    (env.level? thresholdVariable).getD .warning⟩

/-- The settings of an environment. -/
def Settings.ofEnvironment (env : Environment) : Settings :=
  ⟨.ofEnvironment env, .ofEnvironment env, .ofEnvironment env⟩

/-- Settings that could not be loaded. -/
inductive SettingsError where
  /-- The file could not be read. -/
  | unreadable (path : String) (reason : String)
  /-- The document is not TOML, or a setting has a value of the wrong form. -/
  | invalid
deriving DecidableEq, Repr

/-- The diagnostic code of the error. -/
def SettingsError.code : SettingsError → Code
  | unreadable .. => .configReadFailed
  | invalid => .configParseFailed

/-- The error for the reader. -/
def SettingsError.message : SettingsError → String
  | unreadable path reason => "Cannot read configuration file " ++ path ++ ": " ++ reason
  | invalid => "Invalid configuration"

namespace Settings

/--
The values that a section has for its settings, each asked for by its place and its name: a
table has them under their names, and an array at their places.  A date has none; a value
of another form is no section.
-/
def sectionValues? : Toml → Option (Nat → String → Option Toml)
  | .table _ entries => some fun _ name => Toml.get? name entries
  | .array elements => some fun place _ => elements[place]?
  | .datetime => some fun _ _ => none
  | _ => none

/-- A flag that a document may set. -/
def flag? (fallback : Bool) : Option Toml → Option Bool
  | none => some fallback
  | some (.boolean b) => some b
  | some _ => none

/-- The value stands for nothing more than the name in front of it. -/
def isUnit : Toml → Bool
  | .table _ entries => entries.isEmpty
  | .array elements => elements.isEmpty
  | _ => false

/-- A level that a document may set: its name, or a table with its name for a key. -/
def level? (fallback : Level) : Option Toml → Option Level
  | none => some fallback
  | some (.string s) => Level.ofName? s
  | some (.table .inline [(name, v)]) => if isUnit v then Level.ofName? name else none
  | some (.table .inline _) => none
  | some (.table _ ((name, v) :: _)) => if isUnit v then Level.ofName? name else none
  | some _ => none

/-- The scan settings of a section over those of the environment. -/
def scanOf? (env : Environment) (v : Toml) : Option ScanSettings := do
  let fallback := ScanSettings.ofEnvironment env
  let value? ← sectionValues? v
  return ⟨← flag? fallback.countNewlines (value? 0 "count_newlines_in_tokens"),
    ← flag? fallback.logMetrics (value? 1 "log_scan_metrics")⟩

/-- The file settings of a section over those of the environment. -/
def filesOf? (env : Environment) (v : Toml) : Option FileSettings := do
  let fallback := FileSettings.ofEnvironment env
  let value? ← sectionValues? v
  return ⟨← flag? fallback.inferLanguage (value? 0 "infer_language_from_extension")⟩

/-- The log settings of a section over those of the environment. -/
def logOf? (env : Environment) (v : Toml) : Option LogSettings := do
  let fallback := LogSettings.ofEnvironment env
  let value? ← sectionValues? v
  return ⟨← flag? fallback.structured (value? 0 "use_structured_logging"),
    ← flag? fallback.console (value? 1 "enable_console_logging"),
    ← level? fallback.threshold (value? 2 "min_log_level")⟩

/-- A section of a document, or the whole section that holds if the document does not have
it. -/
def sectionOf? {α : Type} (whole : α) (read? : Toml → Option α) (name : String)
    (document : List (String × Toml)) : Option α :=
  match Toml.get? name document with
  | none => some whole
  | some v => read? v

/-- The settings of a document over those of the environment. -/
def ofDocument? (env : Environment) (document : List (String × Toml)) :
    Option Settings := do
  let whole := ofEnvironment env
  return ⟨← sectionOf? whole.scan (scanOf? env) "scan" document,
    ← sectionOf? whole.files (filesOf? env) "file_processor" document,
    ← sectionOf? whole.log (logOf? env) "logging" document⟩

/-- The settings of a text in TOML over those of the environment. -/
def parse (env : Environment) (text : String) : Except SettingsError Settings :=
  match (Toml.read? text).bind (ofDocument? env) with
  | some s => .ok s
  | none => .error .invalid

/-- The settings of a file in TOML over those of the environment. -/
def load (env : Environment) (root : FileTree) (p : Path) :
    Except SettingsError Settings :=
  match root.readText p with
  | .ok text => parse env text
  | .error e => .error (.unreadable p.text e.message)

end Settings
end TableLexer
