import Std.Time.DateTime.Timestamp
import TableLexer.CommandLine.Session

/-!
# The program

Reads what the arguments name into a file tree, runs the session on it, and then writes
what the session has written.  A path leads to the place that its parts name, so two paths
of one run should not have the same parts and different meanings.
-/

namespace TableLexer
namespace Program

/-- The number of levels of directories that are read. -/
def maxDepth : Nat := 4096

/-- The tree with a folder at a place, if nothing is there. -/
def ensureFolder (root : FileTree) (place : List String) : FileTree :=
  if (root.at? place).isSome then root else FileTree.put .empty place root

/-- The tree with what is found on disk at a path; links and special files are left out. -/
def load (root : FileTree) (place : List String) (path : String) : Nat → IO FileTree
  | 0 => return root
  | depth + 1 => do
    let here := (← IO.currentDir) / path
    match (← here.metadata).type with
    | .dir =>
      let mut root := ensureFolder root place
      for entry in ← here.readDir do
        let info ← (here / entry.fileName).symlinkMetadata
        if info.type matches .dir | .file then
          root ← load root (place ++ [entry.fileName])
            (path ++ "/" ++ entry.fileName) depth
      return root
    | .file => return FileTree.put (.file (← IO.FS.readBinFile here)) place root
    | _ => return root

/-- The tree with the directories on the way along a path, and with what is at its end. -/
def mountFrom (root : FileTree) (place : List String) (path : String) :
    List String → IO FileTree
  | [] => load root place path maxDepth
  | name :: names => do
    let here := (← IO.currentDir) / path
    let root := if ← here.isDir then ensureFolder root place else root
    let next := if name = ".." then place.dropLast else place ++ [name]
    mountFrom root next (path ++ "/" ++ name) names

/-- The tree with what a path leads to, as far as it can be read. -/
def mount (root : FileTree) (text : String) : IO FileTree := do
  let start := if text.startsWith "/" then "/" else "."
  try mountFrom root [] start (Path.parts ⟨text⟩) catch _ => return root

/-- The paths that the arguments name. -/
def pathsOf (a : Arguments) : List String :=
  a.inputs.filter (· != "-") ++ a.config.toList ++ a.output.toList ++ a.download.toList

/-- The tree of all that the arguments name. -/
def treeOf : Request → IO FileTree
  | .run a => (pathsOf a).foldlM mount .empty
  | _ => return .empty

/-- The standard input, if the arguments name it. -/
def inputOf : Request → IO ByteArray
  | .run a => do
    if a.inputs.contains "-" then (← IO.getStdin).readBinToEnd else return ByteArray.empty
  | _ => return ByteArray.empty

/-- The environment variables that the settings know. -/
def environment : IO Environment := do
  let mut env := []
  for name in [countNewlinesVariable, logMetricsVariable, inferLanguageVariable,
      structuredVariable, consoleVariable, thresholdVariable] do
    if let some value ← IO.getEnv name then
      env := (name, value) :: env
  return env

/-- The present moment. -/
def presentMoment : IO Timestamp := do
  let nanos := (← Std.Time.Timestamp.now).toNanosecondsSinceUnixEpoch.val
  let seconds := nanos / 1000000000
  return (Timestamp.mk? (seconds / 86400) (seconds % 86400).toNat
    (nanos % 1000000000).toNat).getD .epoch

/-- The number of processors that is assumed. -/
def processors : Nat := 4

/-- Writes what a session has written. -/
def carryOut (s : Session) : IO Unit := do
  for (p, content) in s.written.reverse do
    IO.FS.writeFile p.text content
  IO.print s.out
  IO.eprint s.err

end Program
end TableLexer

open TableLexer in
/-- Runs a session with the arguments. -/
def main (args : List String) : IO UInt32 := do
  let request := Arguments.parse args
  let setting : Setting :=
    ⟨← Program.environment, ← Program.presentMoment, Program.processors⟩
  let files ← Program.treeOf request
  let input ← Program.inputOf request
  let (status, s) := Session.execute setting args { files := files, input := input }
  Program.carryOut s
  return status.toUInt32
