import TableLexer.Batch.Run
import TableLexer.CommandLine.Arguments
import TableLexer.History

/-!
# Sessions

A run of the program from its arguments to its outputs, as a function of the files, the
standard input, the environment and the time.  Inputs are taken in order; each analysis is
recorded in the history and goes to where the arguments say.  A file that cannot be
analyzed is reported and the next input follows; every other failure ends the run.
-/

namespace TableLexer

/-- What a run is given besides its arguments. -/
structure Setting where
  environment : Environment
  now : Timestamp
  /-- The number of processors, which bounds the workers when no number is asked for. -/
  processors : Nat

/-- The state of a run. -/
structure Session where
  files : FileTree
  /-- What is left of the standard input. -/
  input : ByteArray
  out : String := ""
  err : String := ""
  history : History := History.new
  /-- The rule tables have been compiled. -/
  tablesReady : Bool := false
  /-- The files written, the latest one first. -/
  written : List (Path × String) := []

/-- A step of a run: it changes the session and may end the run with a message. -/
abbrev Step := ExceptT String (StateM Session)

/-- The arguments of a run with the settings that hold. -/
structure Task where
  arguments : Arguments
  settings : Settings
  now : Timestamp
  processors : Nat

namespace Task

/-- The format of reports. -/
def format (t : Task) : ReportFormat :=
  t.arguments.format.getD .text

/-- How sources and files are analyzed. -/
def pipeline (t : Task) : Pipeline :=
  .ofSettings t.settings

/-- How directories are analyzed. -/
def batch (t : Task) (language : Option Language) : BatchConfig where
  threads := t.arguments.threads.getD (min t.processors 8)
  recursive := !t.arguments.noRecursive
  failFast := t.arguments.failFast
  language := language

end Task

/-- An event as a line, if the settings let it through. -/
def LogSettings.line? (s : LogSettings) (e : Event) : Option String :=
  if s.console && e.level.passes s.threshold then
    some ((if s.structured then e.toJson.compact else e.display) ++ "\n")
  else
    none

/-- The lines of events that the settings let through. -/
def LogSettings.lines (s : LogSettings) (es : List Event) : String :=
  String.join (es.filterMap s.line?)

/-- The event stands at the start of a scan. -/
def Event.startsScan (e : Event) : Bool :=
  e.level = .debug && e.message == "Starting scan"

/-- The event of compiling the table of a language, with the file at hand. -/
def Table.compiledEvent (now : Timestamp) (file : Option String) (l : Language) : Event :=
  Scope.deliver ⟨now, file⟩ (.plain now .debug "Compiled rule table")
    [("language", l.name), ("rules", toString (Table.builtin l).rules.length)]

/--
The events with those of compiling the tables in front of the first scan, which is when the
tables are compiled, and whether there is a scan.
-/
def withTableEvents (now : Timestamp) : List Event → List Event × Bool
  | [] => ([], false)
  | e :: rest =>
    if e.startsScan then
      (Language.all.map (Table.compiledEvent now (e.context.get? "file")) ++
        e :: rest, true)
    else
      let (es, found) := withTableEvents now rest
      (e :: es, found)

namespace Session

/-- Writes to the standard output. -/
def print (text : String) : Step Unit :=
  modify fun s => { s with out := s.out ++ text }

/-- Writes a line to the standard error output. -/
def complain (line : String) : Step Unit :=
  modify fun s => { s with err := s.err ++ line ++ "\n" }

/-- Runs a computation that logs; its events go to the standard error output. -/
def perform {α : Type} (t : Task) (x : Logged α) : Step α := do
  let (a, events) := x.run ⟨t.now, none⟩
  let s ← get
  let (events, ready) := if s.tablesReady then (events, true)
    else withTableEvents t.now events
  set { s with err := s.err ++ t.settings.log.lines events, tablesReady := ready }
  return a

/-- Ends the run if there is an error. -/
def orFail {ε α : Type} (message : ε → String) : Except ε α → Step α
  | .ok a => return a
  | .error e => throw (message e)

/-- The session after a file was written. -/
def noteWritten (files : FileTree) (p : Path) (content : String) : Step Unit :=
  modify fun s => { s with files := files, written := (p, content) :: s.written }

/-- The statistics of an analysis for the reader. -/
def statisticsText (label : String) (a : Analysis) : String :=
  label ++ " (" ++ a.language.displayName ++ ")\n  Total tokens: " ++
    toString a.statistics.total ++ "\n  Lines of code: " ++ toString a.statistics.lines ++
    "\n  Token types: " ++ a.statistics.counts.render ++
    "\n  Most common token: " ++ a.statistics.dominantSummary ++ "\n"

/-- The counts in the order of the kinds' names. -/
def sortedCounts (c : KindCounts) : Json :=
  .ofFields
    ((c.entries.map fun (kind, n) => (kind.name, Json.ofNat n)).mergeSort fun f g =>
      decide (f.1 ≤ g.1))

/-- The dominant kind with its fields in the order of their names. -/
def sortedDominant : Option (Kind × Nat) → Json
  | none => .null
  | some (kind, n) => .ofFields [("count", .ofNat n), ("kind", kind.toJson)]

/-- The statistics of an analysis in JSON, all fields in the order of their names. -/
def statisticsJson (label : String) (a : Analysis) : Json :=
  .ofFields
    [("input", .ofText label), ("language", a.language.toJson),
     ("statistics", .ofFields
       [("counts_by_kind", sortedCounts a.statistics.counts),
        ("dominant_kind", sortedDominant a.statistics.dominant),
        ("line_count", .ofNat a.statistics.lines),
        ("total_count", .ofNat a.statistics.total)])]

/-- The statistics of an analysis in a format. -/
def renderStatistics (label : String) (a : Analysis) : ReportFormat → String
  | .text => statisticsText label a
  | .json => (statisticsJson label a).indented ++ "\n"

/-- A report as it is printed: JSON is closed by a line feed. -/
def printedReport (a : Analysis) (format : ReportFormat) : String :=
  a.render format ++ (if format = .json then "\n" else "")

/-- Records an analysis. -/
def record (a : Analysis) : Step Unit :=
  modify fun s =>
    { s with history := (s.history.record ⟨a.source, a.language, a.timestamp⟩).1 }

/-- Writes a report over a file. -/
def writeReport (t : Task) (a : Analysis) (p : Path) : Step Unit := do
  let s ← get
  let files ← orFail ReportError.message (← perform t (a.writeTo s.files p t.format))
  noteWritten files p (a.render t.format)
  complain ("Report written to " ++ p.text)

/-- Writes a report into a directory. -/
def downloadReport (t : Task) (label : String) (a : Analysis) (directory : Path) :
    Step Unit := do
  let s ← get
  let (files, p) ← orFail ReportError.message
    (← perform t (a.writeToDirectory s.files directory t.format))
  noteWritten files p (a.render t.format)
  complain (label ++ ": report written to " ++ p.text)

/-- Records an analysis and sends it to where the arguments say. -/
def deliver (t : Task) (label : String) (a : Analysis) : Step Unit := do
  record a
  match t.arguments.output, t.arguments.download with
  | some file, _ => writeReport t a ⟨file⟩
  | none, some directory => downloadReport t label a ⟨directory⟩
  | none, none =>
    if t.arguments.stats then print (renderStatistics label a t.format)
    else print (printedReport a t.format)

/-- Takes the standard input as text; nothing is left of it. -/
def takeInput : Step String := do
  let s ← get
  set { s with input := ByteArray.empty }
  match String.fromUTF8? s.input with
  | some text => return text
  | none => throw SystemError.badText.message

/-- Analyzes the standard input. -/
def analyzeInput (t : Task) (language : Option Language) : Step Bool :=
  match language with
  | none => throw "--language is required when reading standard input"
  | some l => do
    let source ← takeInput
    let a ← perform t (t.pipeline.analyzeSource source l)
    deliver t "<stdin>" a
    return true

/-- Analyzes a file. -/
def analyzeFile (t : Task) (language : Option Language) (p : Path) : Step Bool := do
  let s ← get
  match ← perform t (t.pipeline.analyzeFile s.files p language) with
  | .ok a =>
    deliver t p.text a
    return true
  | .error e =>
    perform t (Logged.error e.code "Analysis failed" [("file", p.text)])
    complain ("Error: " ++ p.text ++ ": " ++ e.message)
    return false

/-- Sends the analyses of a batch to where the arguments say. -/
def deliverAll (t : Task) : List (Path × Analysis) → Step Unit
  | [] => return ()
  | (p, a) :: rest => do
    deliver t p.text a
    deliverAll t rest

/-- Reports the files of a batch that have no analysis. -/
def complainAll : List (Path × AnalysisError) → Step Unit
  | [] => return ()
  | (p, e) :: rest => do
    complain ("Error: " ++ p.text ++ ": " ++ e.message)
    complainAll rest

/-- Analyzes the files of a directory. -/
def analyzeDirectory (t : Task) (language : Option Language) (p : Path) : Step Bool := do
  let s ← get
  let results ← orFail BatchError.message
    (← perform t (Batch.analyzeDirectory (t.batch language) t.pipeline s.files p))
  deliverAll t results.successes
  complainAll results.failures
  complain results.summary
  if results.failures.length > 0 then
    perform t (Logged.say .warning "Batch finished with failures"
      [("failed", toString results.failures.length)])
  return results.failures.isEmpty

/-- Analyzes an input: `-` is the standard input. -/
def analyzeOne (t : Task) (language : Option Language) (text : String) : Step Bool := do
  let s ← get
  if text = "-" then analyzeInput t language
  else if s.files.hasFolder ⟨text⟩ then analyzeDirectory t language ⟨text⟩
  else analyzeFile t language ⟨text⟩

/-- Analyzes inputs in order; the answer is whether all of them went well. -/
def analyzeAll (t : Task) (language : Option Language) : List String → Step Bool
  | [] => return true
  | text :: rest => do
    let ok ← analyzeOne t language text
    let others ← analyzeAll t language rest
    return ok && others

/-- The language that the arguments name. -/
def languageOf (t : Task) : Step (Option Language) :=
  match t.arguments.language with
  | none => return none
  | some identifier => do
    let l ← orFail UnknownLanguage.message (Language.parse identifier)
    return some l

/-- Refuses an output file for anything but a single input that is no directory. -/
def checkOutput (t : Task) : Step Unit := do
  let s ← get
  match t.arguments.output, t.arguments.inputs with
  | none, _ => return ()
  | some _, [text] =>
    if s.files.hasFolder ⟨text⟩ then
      throw ("--output cannot be used with directory input " ++ text ++
        "; use --download DIR")
  | some _, _ => throw "--output accepts a single input"

/-- The lines of a history. -/
def complainLines : List String → Step Unit
  | [] => return ()
  | line :: rest => do
    complain line
    complainLines rest

/-- What is done with the settings that hold. -/
def work (t : Task) : Step Bool := do
  perform t
    (Logged.success .initializationCompleted "Global logging system initialized" [])
  perform t (Logged.say .info "lexscan starting"
    [("inputs", toString t.arguments.inputs.length)])
  let problems ← perform t Table.validateAllLogged
  complainLines (problems.map fun e => "Warning: " ++ e.message)
  let language ← languageOf t
  checkOutput t
  let ok ← analyzeAll t language t.arguments.inputs
  if t.arguments.history then
    let s ← get
    complainLines s.history.listing
  return ok

/-- The settings that hold for the arguments. -/
def settingsOf (setting : Setting) (a : Arguments) : Step Settings := do
  let s ← get
  match a.config with
  | none => return .ofEnvironment setting.environment
  | some file =>
    orFail SettingsError.message (Settings.load setting.environment s.files ⟨file⟩)

/-- What is done for the arguments; the answer is whether every input went well. -/
def run (setting : Setting) (a : Arguments) : Step Bool := do
  let settings ← settingsOf setting a
  work ⟨a, settings, setting.now, setting.processors⟩

/-- The exit status of a run and the session at its end. -/
def finish (setting : Setting) (a : Arguments) (s : Session) : Nat × Session :=
  match (run setting a).run.run s with
  | (.ok ok, s) => (if ok then 0 else 1, s)
  | (.error message, s) => (1, { s with err := s.err ++ "Error: " ++ message ++ "\n" })

/-- The version line. -/
def versionText : String := "lexscan 0.1.0\n"

/-- What the options are. -/
def usageText : String :=
  "Usage: lexscan [OPTIONS] <INPUT>...\n\n" ++
    "  -l, --language <LANGUAGE>  language of every input\n" ++
    "  -f, --format <FORMAT>      text or json\n" ++
    "  -o, --output <FILE>        write the report of a single input to a file\n" ++
    "      --download <DIR>       write every report to a directory\n" ++
    "      --stats                print statistics only\n" ++
    "      --config <FILE>        settings in TOML\n" ++
    "      --no-recursive         leave out subdirectories\n" ++
    "      --threads <N>          workers for directories\n" ++
    "      --fail-fast            stop a directory at its first failure\n" ++
    "      --history              print the history of the run\n" ++
    "  -h, --help                 print this text\n" ++
    "  -V, --version              print the version\n"

/-- The exit status of a command line and the session at its end. -/
def execute (setting : Setting) (args : List String) (s : Session) : Nat × Session :=
  match Arguments.parse args with
  | .version => (0, { s with out := versionText })
  | .help => (0, { s with out := usageText })
  | .refused => (2, { s with err := usageText })
  | .run a => s.finish setting a

end Session
end TableLexer
