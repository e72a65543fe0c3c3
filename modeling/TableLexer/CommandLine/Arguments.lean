import TableLexer.Analysis

/-!
# Arguments

What a command line asks for.  Options may stand anywhere among the inputs, each at most
once; a value follows its option as the next argument, behind an equals sign, or right
behind a single letter.  After `--` everything is an input.  The first argument that asks
for the version or for help decides, if nothing before it is wrong.
-/

namespace TableLexer

/-- What is to be analyzed, and how. -/
structure Arguments where
  inputs : List String
  language : Option String := none
  format : Option ReportFormat := none
  output : Option String := none
  download : Option String := none
  stats : Bool := false
  config : Option String := none
  noRecursive : Bool := false
  threads : Option Nat := none
  failFast : Bool := false
  history : Bool := false
deriving DecidableEq, Repr

/-- What a command line asks for. -/
inductive Request where
  | run (arguments : Arguments)
  | version
  | help
  /-- The arguments make no sense. -/
  | refused
deriving DecidableEq, Repr

namespace Arguments

/-- The options that have a value. -/
inductive ValueOption where
  | language
  | format
  | output
  | download
  | config
  | threads
deriving DecidableEq, Repr

/-- The options that have none. -/
inductive Flag where
  | stats
  | noRecursive
  | failFast
  | history
deriving DecidableEq, Repr

/-- What an argument that begins with a dash stands for. -/
inductive Switch where
  | value (o : ValueOption)
  | flag (f : Flag)
  | version
  | help
deriving DecidableEq, Repr

/-- The switch with a long name. -/
def Switch.ofLong? : String → Option Switch
  | "language" => some (.value .language)
  | "format" => some (.value .format)
  | "output" => some (.value .output)
  | "download" => some (.value .download)
  | "config" => some (.value .config)
  | "threads" => some (.value .threads)
  | "stats" => some (.flag .stats)
  | "no-recursive" => some (.flag .noRecursive)
  | "fail-fast" => some (.flag .failFast)
  | "history" => some (.flag .history)
  | "version" => some .version
  | "help" => some .help
  | _ => none

/-- The switch with a one-letter name. -/
def Switch.ofShort? : Char → Option Switch
  | 'l' => some (.value .language)
  | 'f' => some (.value .format)
  | 'o' => some (.value .output)
  | 'V' => some .version
  | 'h' => some .help
  | _ => none

/-- The format with a name. -/
def formatOf? : String → Option ReportFormat
  | "text" => some .text
  | "json" => some .json
  | _ => none

/-- The largest number of threads that can be asked for. -/
def maxThreads : Nat := 18446744073709551615

/-- The number of threads that a value writes: digits, behind a plus sign if there is
one. -/
def threadsOf? (s : String) : Option Nat :=
  let digits := match s.toList with
    | '+' :: rest => rest
    | cs => cs
  if digits.isEmpty || !digits.all Char.isDigit then none
  else
    let n := Text.decimalValue digits
    if n ≤ maxThreads then some n else none

/-- A path that a value writes; it is not empty. -/
def pathOf? (s : String) : Option String :=
  if s.isEmpty then none else some s

/-- A value given for the first time. -/
def firstTime {α : Type} (old : Option α) (new : Option α) : Option (Option α) :=
  match old, new with
  | none, some a => some (some a)
  | _, _ => none

/-- The arguments with a value for an option that has none so far. -/
def setValue? (a : Arguments) (s : String) : ValueOption → Option Arguments
  | .language => (firstTime a.language (some s)).map fun v => { a with language := v }
  | .format => (firstTime a.format (formatOf? s)).map fun v => { a with format := v }
  | .output => (firstTime a.output (pathOf? s)).map fun v => { a with output := v }
  | .download => (firstTime a.download (pathOf? s)).map fun v => { a with download := v }
  | .config => (firstTime a.config (pathOf? s)).map fun v => { a with config := v }
  | .threads => (firstTime a.threads (threadsOf? s)).map fun v => { a with threads := v }

/-- The arguments with a flag that is not set so far. -/
def setFlag? (a : Arguments) : Flag → Option Arguments
  | .stats => if a.stats then none else some { a with stats := true }
  | .noRecursive => if a.noRecursive then none else some { a with noRecursive := true }
  | .failFast => if a.failFast then none else some { a with failFast := true }
  | .history => if a.history then none else some { a with history := true }

/-- The arguments with one more input, which is not empty. -/
def addInput? (a : Arguments) (s : String) : Option Arguments :=
  (pathOf? s).map fun s => { a with inputs := a.inputs ++ [s] }

/-- The arguments with inputs behind `--`. -/
def addInputs? (a : Arguments) : List String → Option Arguments
  | [] => some a
  | s :: rest =>
    match a.addInput? s with
    | some a => a.addInputs? rest
    | none => none

/-- The argument cannot be the value of the option before it. -/
def looksLikeSwitch (s : String) : Bool :=
  match s.toList with
  | ['-'] => false
  | '-' :: _ => true
  | _ => false

/-- A switch as an argument gives it, with the value that is attached to it. -/
structure Given where
  switch : Switch
  attached : Option String
deriving DecidableEq, Repr

/-- Reads a switch with a long name, behind its two dashes. -/
def readLong? (cs : List Char) : Option Given :=
  let name := String.ofList (cs.takeWhile (· != '='))
  let attached := match cs.dropWhile (· != '=') with
    | _ :: value => some (String.ofList value)
    | [] => none
  (Switch.ofLong? name).map fun s => ⟨s, attached⟩

/-- Reads a switch with a one-letter name, behind its dash. -/
def readShort? : List Char → Option Given
  | [] => none
  | c :: rest =>
    let attached := match rest with
      | [] => none
      | '=' :: value => some (String.ofList value)
      | value => some (String.ofList value)
    (Switch.ofShort? c).map fun s => ⟨s, attached⟩

/-- Reads an argument that looks like a switch. -/
def readSwitch? (s : String) : Option Given :=
  match s.toList with
  | '-' :: '-' :: cs => readLong? cs
  | '-' :: cs => readShort? cs
  | _ => none

/-- The switch was given by its long name. -/
def isLong (s : String) : Bool :=
  match s.toList with
  | '-' :: '-' :: _ => true
  | _ => false

/-- What the arguments ask for when there are no more. -/
def finish (a : Arguments) : Request :=
  if a.inputs.isEmpty || (a.output.isSome && a.download.isSome) then .refused else .run a

/-- What further arguments ask for. -/
def read (a : Arguments) : List String → Request
  | [] => a.finish
  | s :: rest =>
    if s = "--" then
      match a.addInputs? rest with
      | some a => a.finish
      | none => .refused
    else if looksLikeSwitch s then
      match readSwitch? s with
      | none => .refused
      | some ⟨.version, attached⟩ =>
        if isLong s && attached.isSome then .refused else .version
      | some ⟨.help, attached⟩ => if isLong s && attached.isSome then .refused else .help
      | some ⟨.flag f, attached⟩ =>
        match attached, a.setFlag? f with
        | none, some a => read a rest
        | _, _ => .refused
      | some ⟨.value o, some v⟩ =>
        match a.setValue? v o with
        | some a => read a rest
        | none => .refused
      | some ⟨.value o, none⟩ =>
        match rest with
        | v :: rest =>
          if looksLikeSwitch v then .refused
          else
            match a.setValue? v o with
            | some a => read a rest
            | none => .refused
        | [] => .refused
    else
      match a.addInput? s with
      | some a => read a rest
      | none => .refused

/-- What a command line asks for. -/
def parse (args : List String) : Request :=
  read { inputs := [] } args

end Arguments
end TableLexer
