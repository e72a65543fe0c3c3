import TableLexer.Pipeline

/-!
# Discovery

The source files below a directory.  The search goes depth first and in the order of the
names, stops when it has found as many files as it may, and puts what it has found in the
order of the paths.  Without a given language a file needs an extension that implies one;
with a given language any known extension will do.
-/

namespace TableLexer

/-- How a directory is analyzed. -/
structure BatchConfig where
  /-- The number of workers that is asked for. -/
  threads : Nat
  /-- Directories below the directory are searched too. -/
  recursive : Bool := true
  /-- The search stops when this many files are found. -/
  maxFiles : Option Nat := none
  /-- The analysis stops after a failure. -/
  failFast : Bool := false
  /-- The language of every file. -/
  language : Option Language := none
deriving DecidableEq, Repr

/-- Why a directory is not analyzed. -/
inductive BatchError where
  | directoryNotFound (path : String)
  | noSourceFiles (path : String)
  | workerPanicked
deriving DecidableEq, Repr

namespace BatchError

/-- The diagnostic code of the error. -/
def code : BatchError → Code
  | directoryNotFound _ => .directoryNotFound
  | noSourceFiles _ => .noSourceFiles
  | workerPanicked => .internalError

/-- The error for the reader. -/
def message : BatchError → String
  | directoryNotFound path => "Directory not found: " ++ path
  | noSourceFiles path => "No source files found in directory: " ++ path
  | workerPanicked => "A batch worker panicked"

end BatchError

namespace Discovery

/-- A file with this extension is looked for. -/
def isCandidate (language : Option Language) (p : Path) : Bool :=
  match p.extension? with
  | none => false
  | some extension =>
    if language.isSome then isSupportedExtension extension
    else (Language.ofExtension? extension).isSome

mutual

/-- The files at or below a node, whose path is given, in the order of the search. -/
def walk (recursive : Bool) (p : Path) : FileTree → List Path
  | .file _ => [p]
  | .folder children => if recursive then walkAll recursive p children else []

/-- The files at or below the children of a folder, whose path is given. -/
def walkAll (recursive : Bool) (p : Path) : List (String × FileTree) → List Path
  | [] => []
  | (name, node) :: rest => walk recursive (p.join name) node ++ walkAll recursive p rest

end

/-- The number of files is not below the limit. -/
def reaches (limit : Option Nat) (files : Nat) : Bool :=
  limit.any fun most => most ≤ files

/--
The candidates of a walk, when so many are found before it.  The limit is looked at behind
each new one, and the search stops where it is reached; the second value tells whether it
was.
-/
def gather (language : Option Language) (limit : Option Nat) (found : Nat) :
    List Path → List Path × Bool
  | [] => ([], false)
  | p :: rest =>
    if isCandidate language p then
      if reaches limit (found + 1) then ([p], true)
      else
        let (files, full) := gather language limit (found + 1) rest
        (p :: files, full)
    else gather language limit found rest

/-- Paths in order, part by part, with one more in its place. -/
def insertPath (p : Path) : List Path → List Path
  | [] => [p]
  | q :: rest => if q.parts < p.parts then q :: insertPath p rest else p :: q :: rest

/-- The paths in their order, part by part. -/
def inPathOrder : List Path → List Path
  | [] => []
  | p :: rest => insertPath p (inPathOrder rest)

/-- All candidates at or below the children of a folder, whose path is given, in the order
of their paths. -/
def belowAll (language : Option Language) (recursive : Bool) (p : Path)
    (children : List (String × FileTree)) : List Path :=
  inPathOrder ((walkAll recursive p children).filter (isCandidate language))

/-- All candidates of a directory, in the order of their paths. -/
def candidates (config : BatchConfig) (p : Path) (t : FileTree) : List Path :=
  belowAll config.language config.recursive p t.children

/-- The path is that of a directory. -/
def folder? (root : FileTree) (p : Path) : Option FileTree :=
  match root.get p with
  | .ok (.folder children) => some (.folder children)
  | _ => none

/-- The source files of a directory, in the order of their paths. -/
def discover (config : BatchConfig) (root : FileTree) (p : Path) :
    Logged (Except BatchError (List Path)) := do
  Logged.say .info "Starting file discovery"
    [("directory", p.text), ("recursive", Event.yesNo config.recursive)]
  match folder? root p with
  | none =>
    let e := BatchError.directoryNotFound p.text
    Logged.error e.code "Batch input is not a directory" [("path", p.text)]
    return .error e
  | some t =>
    let (files, full) :=
      gather config.language config.maxFiles 0 (walkAll config.recursive p t.children)
    if full then
      Logged.say .warning "Reached maximum file limit" [("limit", toString files.length)]
    if files.isEmpty then
      let e := BatchError.noSourceFiles p.text
      Logged.error e.code "No source files discovered" [("path", p.text)]
      return .error e
    else
      Logged.say .debug "File discovery completed" [("files_found", toString files.length)]
      return .ok (inPathOrder files)

end Discovery
end TableLexer
