import TableLexer.Proofs.Batch.Pieces
import TableLexer.Proofs.Batch.Search

/-!
# What a directory comes to

Without a limit, all candidates of a directory are discovered.  If there are any and the
batch does not stop after a failure, each of them has its outcome, in the order of
discovery and whatever the number of workers is (`value_analyzeDirectory`); if there are
none, the directory has an error (`value_analyzeDirectory_of_bare`).  This is about the run
in which workers take their turns one after the other.
-/

namespace TableLexer

namespace Discovery

theorem hasFolder_eq
    (root : FileTree) (p : Path) :
    root.hasFolder p = (folder? root p).isSome := by
  unfold FileTree.hasFolder folder?
  cases root.get p with
  | error e =>
      rfl
  | ok t =>
      cases t <;> rfl

/-- Without a limit all candidates are discovered; none at all is an error. -/
theorem value_discover
    {config : BatchConfig} {root : FileTree} {p : Path} {t : FileTree}
    (hlimit : config.maxFiles = none)
    (hfolder : folder? root p = some t)
    (scope : Scope) :
    (discover config root p).value scope
      =
    if (candidates config p t).isEmpty then .error (.noSourceFiles p.text)
    else .ok (candidates config p t) := by
  rw [value_discover_of_folder hfolder, hlimit, gather_of_unlimited, candidates, belowAll,
    (inPathOrder_perm _).isEmpty_eq]

end Discovery

namespace Batch

variable {analyze : Path → Logged Outcome}

theorem value_runInOrder
    (files : List Path) (scope : Scope) :
    (runInOrder false analyze files).value scope =
      files.map fun p => (analyze p).value scope := by
  induction files with
  | nil =>
      rfl
  | cons p rest ih =>
      rw [runInOrder, Logged.value_bind, Bool.and_false, List.map_cons, ← ih]
      rfl

theorem value_runChunk
    (workers : Nat)
    (chunk : List Path) (scope : Scope) :
    (runChunk workers analyze chunk).value scope
      =
    chunk.map fun p => (analyze p).value scope := by
  have hslices : (slices workers chunk).flatten = chunk := flatten_piecesOf _ chunk
  conv => rhs; rw [← hslices, List.map_flatten]
  simp [runChunk]

theorem value_runChunks
    (workers : Nat)
    (chunks : List (List Path)) (scope : Scope) :
    (runChunks false workers analyze chunks).value scope
      =
    chunks.flatten.map fun p => (analyze p).value scope := by
  induction chunks with
  | nil =>
      rfl
  | cons chunk rest ih =>
      rw [runChunks, Logged.value_bind, Bool.false_and, List.flatten_cons, List.map_append,
        ← value_runChunk workers, ← ih]
      rfl

/-- Without stopping, every file has its outcome, whatever the number of workers. -/
theorem value_runFiles
    {config : BatchConfig}
    (hoff : config.failFast = false)
    (files : List Path) (scope : Scope) :
    (runFiles config analyze files).value scope =
      files.map fun p => (analyze p).value scope := by
  unfold runFiles
  rw [hoff]
  split
  · exact value_runInOrder files scope
  · rw [Logged.value_bind, value_runChunks, flatten_piecesOf]

section Directory

variable {config : BatchConfig} {root tree : FileTree} {p : Path}

theorem value_analyzeDirectory_of_bare
    (hlimit : config.maxFiles = none)
    (hfolder : Discovery.folder? root p = some tree)
    (hbare : Discovery.candidates config p tree = [])
    (pipeline : Pipeline) (scope : Scope) :
    (analyzeDirectory config pipeline root p).value scope =
      .error (.noSourceFiles p.text) := by
  rw [analyzeDirectory, Logged.value_bind, Discovery.value_discover hlimit hfolder, hbare]
  rfl

/-- The outcomes of a directory are those of its candidates. -/
theorem value_analyzeDirectory
    (hlimit : config.maxFiles = none)
    (hoff : config.failFast = false)
    (hfolder : Discovery.folder? root p = some tree)
    (hfound : Discovery.candidates config p tree ≠ [])
    (pipeline : Pipeline) (scope : Scope) :
    let files := Discovery.candidates config p tree
    (analyzeDirectory config pipeline root p).value scope
      =
    .ok (.ofOutcomes files.length (files.map fun q =>
      ⟨q, (pipeline.analyzeFile root q config.language).value scope⟩)) := by
  intro files
  have hdiscover : (Discovery.discover config root p).value scope = .ok files := by
    rw [Discovery.value_discover hlimit hfolder, if_neg]
    rwa [List.isEmpty_iff]
  have hrun :
      (runFiles config (analyzeOne config pipeline root) files).value scope
        =
      files.map fun q => ⟨q, (pipeline.analyzeFile root q config.language).value scope⟩ :=
    value_runFiles hoff files scope
  rw [← hrun, analyzeDirectory, Logged.value_bind, hdiscover]
  rfl

end Directory

end Batch
end TableLexer
