import TableLexer.Batch.Discovery

/-!
# Batches

The analyses of the files of a directory.  One worker goes from file to file.  Several
workers share the files of a chunk, in slices of equal length, and take the next chunk when
all are done; their outcomes are joined in the order of the files.  After a failure a batch
can stop: one worker at the file, several at the end of the chunk.
-/

namespace TableLexer

/-- The largest number of workers. -/
def maxWorkers : Nat := 32

/-- The largest number of files in a chunk. -/
def maxChunk : Nat := 50

/-- The number of workers that a batch has. -/
def BatchConfig.workers (config : BatchConfig) : Nat :=
  max 1 (min config.threads maxWorkers)

/-- The quotient of two numbers, rounded up. -/
def divideUp (a b : Nat) : Nat :=
  (a + b - 1) / b

/-- The number of files in a chunk. -/
def chunkSize (files workers : Nat) : Nat :=
  max 1 (min (divideUp files (max workers 1)) maxChunk)

/-- The list in pieces of a length, the last one possibly shorter. -/
def piecesOf {α : Type} (size : Nat) : List α → List (List α)
  | [] => []
  | a :: rest =>
    (a :: rest).take (max size 1) :: piecesOf size ((a :: rest).drop (max size 1))
termination_by xs => xs.length
decreasing_by
  simp only [List.length_drop, List.length_cons]
  omega

/-- The outcome of a file. -/
structure Outcome where
  path : Path
  result : Except AnalysisError Analysis

namespace Outcome

/-- The file has no analysis. -/
def isFailure (o : Outcome) : Bool :=
  match o.result with
  | .error _ => true
  | .ok _ => false

/-- The path with its analysis. -/
def success? (o : Outcome) : Option (Path × Analysis) :=
  match o.result with
  | .ok a => some (o.path, a)
  | .error _ => none

/-- The path with its error. -/
def failure? (o : Outcome) : Option (Path × AnalysisError) :=
  match o.result with
  | .ok _ => none
  | .error e => some (o.path, e)

end Outcome

/-- The outcomes of a batch. -/
structure BatchResults where
  successes : List (Path × Analysis)
  failures : List (Path × AnalysisError)
  discovered : Nat
  /-- The time that the batch took, in nanoseconds. -/
  nanos : Nat

namespace BatchResults

/-- The results of a sequence of outcomes. -/
def ofOutcomes (discovered : Nat) (outcomes : List Outcome) : BatchResults :=
  ⟨outcomes.filterMap Outcome.success?, outcomes.filterMap Outcome.failure?, discovered, 0⟩

/-- The number of files with an outcome. -/
def processed (r : BatchResults) : Nat :=
  r.successes.length + r.failures.length

/-- The number of tokens of all analyses. -/
def tokens (r : BatchResults) : Nat :=
  r.successes.foldl (fun n s => n + s.2.statistics.total) 0

/-- The batch in one line. -/
def summary (r : BatchResults) : String :=
  "Batch analysis completed: " ++ toString r.processed ++ " files processed, " ++
    toString r.successes.length ++ " successful, " ++ toString r.failures.length ++
      " failed, " ++
    toString r.tokens ++ " tokens, " ++ showSeconds r.nanos ++ "s total"

end BatchResults

namespace Batch

/-- Reports that a batch stops after a failure. -/
def logStop : Logged Unit :=
  Logged.say .warning "Fail-fast mode enabled, stopping batch analysis" []

/-- The outcomes of files one after the other; with `failFast` a failure is the last of
them. -/
def runInOrder (failFast : Bool) (analyze : Path → Logged Outcome) :
    List Path → Logged (List Outcome)
  | [] => return []
  | p :: rest => do
    let o ← analyze p
    if o.isFailure && failFast then
      logStop
      return [o]
    else
      let os ← runInOrder failFast analyze rest
      return o :: os

/-- The slices of a chunk, one for each worker that gets any files. -/
def slices (workers : Nat) (chunk : List Path) : List (List Path) :=
  piecesOf (divideUp chunk.length workers) chunk

/-- The outcomes of a chunk, joined in the order of its slices. -/
def runChunk (workers : Nat) (analyze : Path → Logged Outcome) (chunk : List Path) :
    Logged (List Outcome) := do
  let parts ← Logged.mapEach (Logged.mapEach analyze) (slices workers chunk)
  return parts.flatten

/-- The outcomes of chunks one after the other; with `failFast` one with a failure is the
last. -/
def runChunks (failFast : Bool) (workers : Nat) (analyze : Path → Logged Outcome) :
    List (List Path) → Logged (List Outcome)
  | [] => return []
  | chunk :: rest => do
    let os ← runChunk workers analyze chunk
    if failFast && os.any Outcome.isFailure then
      logStop
      return os
    else
      let more ← runChunks failFast workers analyze rest
      return os ++ more

/-- The outcomes of the files of a batch. -/
def runFiles (config : BatchConfig) (analyze : Path → Logged Outcome) (files : List Path) :
    Logged (List Outcome) :=
  if config.workers = 1 ∨ files.length = 1 then
    runInOrder config.failFast analyze files
  else do
    let size := chunkSize files.length config.workers
    Logged.say .debug "Parallel batch configuration"
      [("total_files", toString files.length), ("chunk_size", toString size),
       ("threads", toString config.workers)]
    runChunks config.failFast config.workers analyze (piecesOf size files)

/-- The outcome of a file in a batch. -/
def analyzeOne (config : BatchConfig) (pipeline : Pipeline) (root : FileTree) (p : Path) :
    Logged Outcome := do
  let result ← pipeline.analyzeFile root p config.language
  return ⟨p, result⟩

/-- Reports a file without analysis. -/
def logFailure (f : Path × AnalysisError) : Logged Unit :=
  Logged.error f.2.code "File analysis failed" [("file", f.1.text), ("error", f.2.message)]

/-- The analyses of the files of a directory. -/
def analyzeDirectory (config : BatchConfig) (pipeline : Pipeline) (root : FileTree)
    (p : Path) : Logged (Except BatchError BatchResults) := do
  match ← Discovery.discover config root p with
  | .error e => return .error e
  | .ok files =>
    let outcomes ← runFiles config (analyzeOne config pipeline root) files
    let results := BatchResults.ofOutcomes files.length outcomes
    let _ ← Logged.mapEach logFailure results.failures
    Logged.success .batchComplete "Batch analysis completed"
      [("files_processed", toString results.processed),
       ("successful", toString results.successes.length),
       ("failed", toString results.failures.length),
       ("duration_ms", showMillis results.nanos)]
    return .ok results

end Batch
end TableLexer
