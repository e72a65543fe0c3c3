import Mathlib.Data.List.Forall2
import TableLexer.Proofs.Batch.Workers
import TableLexer.Proofs.Files.Reports

/-!
# Logs of batches

The workers of a chunk write to one log.  Each of them writes the events of its files in
their order, but which worker comes next is left open before each single event (`Merged`).
When all of them are done, the events of the next chunk follow, and in the end those of
what the batch itself reports.

`Batch.BatchMayLog` says which results and which log of any files belong together, whatever
the system answers about these files, and `Batch.DirectoryMayLog` says it of a directory.
What the run in order gives and says is one of these cases
(`directoryMayLog_analyzeDirectory`), and without their logs the outcomes are those of
workers who take turns (`mayReport_of_filesMayLog`).
-/

namespace TableLexer

/-- The lists are merged: the first element of one of them, any of them, comes next. -/
inductive Merged {α : Type} : List (List α) → List α → Prop
  | none
      {ls : List (List α)} :
      (∀ l ∈ ls, l = []) →
      Merged ls []
  | next
      {left right : List (List α)} {a : α} {rest merged : List α} :
      Merged (left ++ rest :: right) merged →
      Merged (left ++ (a :: rest) :: right) (a :: merged)

/-- Merging loses nothing and adds nothing. -/
theorem Merged.perm
    {α : Type} {ls : List (List α)} {merged : List α}
    (h : Merged ls merged) :
    merged.Perm ls.flatten := by
  induction h with
  | none hnil =>
      rw [List.flatten_eq_nil_iff.2 hnil]
  | @next left right a rest merged _ ih =>
      have hmiddle : (a :: (left ++ rest :: right).flatten).Perm
          (left ++ (a :: rest) :: right).flatten := by
        simp only [List.flatten_append, List.flatten_cons, List.cons_append]
        exact List.perm_middle.symm
      exact (ih.cons a).trans hmiddle

/-- One list after the other is a way to merge them. -/
theorem merged_append_flatten
    {α : Type} {done : List (List α)}
    (hdone : ∀ l ∈ done, l = [])
    (ls : List (List α)) :
    Merged (done ++ ls) ls.flatten := by
  -- A list that is used up stays in its place, in front of those that are not.
  induction ls generalizing done with
  | nil =>
      rw [List.append_nil]
      exact .none hdone
  | cons l ls ih =>
      induction l with
      | nil =>
          have hmore : ∀ l ∈ done ++ [[]], l = [] := by
            simpa [or_imp, forall_and] using hdone
          have hrest := ih hmore
          rwa [List.append_assoc] at hrest
      | cons a rest ihrest =>
          exact .next ihrest

theorem merged_flatten
    {α : Type}
    (ls : List (List α)) :
    Merged ls ls.flatten :=
  merged_append_flatten (List.forall_mem_nil _) ls

namespace Batch

variable {analyze : Path → Logged Outcome} {scope : Scope}

/-- The outcome and the log are those of the file, at some time. -/
def OutcomeWithLog
    (analyze : Path → Logged Outcome)
    (p : Path)
    (o : Outcome)
    (said : List Event) :
    Prop :=
  ∃ scope, o = (analyze p).value scope ∧ (analyze p).MayLog scope said

/-- The outcomes and the log of files one after the other. -/
inductive InOrderMayLog
    (failFast : Bool)
    (analyze : Path → Logged Outcome)
    (scope : Scope) :
    List Path → List Outcome → List Event → Prop
  | none :
      InOrderMayLog failFast analyze scope [] [] []
  | stop
      {p : Path} {rest : List Path} {o : Outcome} {said stopped : List Event} :
      OutcomeWithLog analyze p o said →
      (o.isFailure && failFast) = true →
      logStop.MayLog scope stopped →
      InOrderMayLog failFast analyze scope (p :: rest) [o] (said ++ stopped)
  | next
      {p : Path} {rest : List Path} {o : Outcome} {os : List Outcome}
      {said more : List Event} :
      OutcomeWithLog analyze p o said →
      (o.isFailure && failFast) = false →
      InOrderMayLog failFast analyze scope rest os more →
      InOrderMayLog failFast analyze scope (p :: rest) (o :: os) (said ++ more)

/-- The outcomes and the log of a chunk: the logs of its workers are merged in any way. -/
def ChunkMayLog
    (analyze : Path → Logged Outcome)
    (scope : Scope)
    (workers : Nat)
    (chunk : List Path)
    (os : List Outcome)
    (log : List Event) :
    Prop :=
  ∃ parts : List (List Outcome × List Event),
    List.Forall₂ (fun slice part => InOrderMayLog false analyze scope slice part.1 part.2)
      (slices workers chunk) parts ∧
    os = parts.flatMap Prod.fst ∧
    Merged (parts.map Prod.snd) log

/-- The outcomes and the log of chunks one after the other. -/
inductive ChunksMayLog
    (failFast : Bool)
    (workers : Nat)
    (analyze : Path → Logged Outcome)
    (scope : Scope) :
    List (List Path) → List Outcome → List Event → Prop
  | none :
      ChunksMayLog failFast workers analyze scope [] [] []
  | stop
      {chunk : List Path} {rest : List (List Path)}
      {os : List Outcome} {said stopped : List Event} :
      ChunkMayLog analyze scope workers chunk os said →
      (failFast && os.any Outcome.isFailure) = true →
      logStop.MayLog scope stopped →
      ChunksMayLog failFast workers analyze scope (chunk :: rest) os (said ++ stopped)
  | next
      {chunk : List Path} {rest : List (List Path)}
      {os others : List Outcome} {said more : List Event} :
      ChunkMayLog analyze scope workers chunk os said →
      (failFast && os.any Outcome.isFailure) = false →
      ChunksMayLog failFast workers analyze scope rest others more →
      ChunksMayLog failFast workers analyze scope (chunk :: rest) (os ++ others)
        (said ++ more)

/-- Reports how several workers share the files. -/
def logShares
    (config : BatchConfig)
    (files : List Path) :
    Logged Unit :=
  Logged.say .debug "Parallel batch configuration"
    [("total_files", toString files.length),
     ("chunk_size", toString (chunkSize files.length config.workers)),
     ("threads", toString config.workers)]

/-- The outcomes and the log of the files of a batch. -/
def FilesMayLog
    (config : BatchConfig)
    (analyze : Path → Logged Outcome)
    (scope : Scope)
    (files : List Path)
    (os : List Outcome)
    (log : List Event) :
    Prop :=
  if config.workers = 1 ∨ files.length = 1 then
    InOrderMayLog config.failFast analyze scope files os log
  else
    ∃ shared said,
      (logShares config files).MayLog scope shared ∧
      ChunksMayLog config.failFast config.workers analyze scope
        (piecesOf (chunkSize files.length config.workers) files) os said ∧
      log = shared ++ said

/-- Reports the files without analysis, and that the batch is complete. -/
def logResults (results : BatchResults) : Logged Unit := do
  let _ ← Logged.mapEach logFailure results.failures
  Logged.success .batchComplete "Batch analysis completed"
    [("files_processed", toString results.processed),
     ("successful", toString results.successes.length),
     ("failed", toString results.failures.length),
     ("duration_ms", showMillis results.nanos)]

/-- The outcome of a file in a batch, by what the system answers about the file. -/
def analyzeOneFrom
    (config : BatchConfig)
    (pipeline : Pipeline)
    (answers : Path → FileAnswers)
    (p : Path) :
    Logged Outcome := do
  let result ← pipeline.analyzeFileFrom (answers p) p config.language
  return ⟨p, result⟩

theorem analyzeOne_eq
    (config : BatchConfig)
    (pipeline : Pipeline) (root : FileTree) :
    analyzeOne config pipeline root = analyzeOneFrom config pipeline (.ofTree root) := by
  funext p
  rw [analyzeOne, Pipeline.analyzeFile_eq, analyzeOneFrom]

/-- The results that a batch of files can have, together with its log. -/
def BatchMayLog
    (config : BatchConfig)
    (pipeline : Pipeline)
    (answers : Path → FileAnswers)
    (scope : Scope)
    (files : List Path)
    (results : BatchResults)
    (log : List Event) :
    Prop :=
  ∃ os said after,
    FilesMayLog config (analyzeOneFrom config pipeline answers) scope files os said ∧
    results = .ofOutcomes files.length os ∧
    (logResults results).MayLog scope after ∧
    log = said ++ after

/-- What the analysis of a directory can give, together with its log: the files are
searched for in a tree. -/
def DirectoryMayLog
    (config : BatchConfig)
    (pipeline : Pipeline)
    (root : FileTree)
    (answers : Path → FileAnswers)
    (dir : Path)
    (scope : Scope)
    (given : Except BatchError BatchResults)
    (log : List Event) :
    Prop :=
  ∃ before,
    (Discovery.discover config root dir).MayLog scope before ∧
    match (Discovery.discover config root dir).value scope with
    | .error e => given = .error e ∧ log = before
    | .ok files => ∃ results said,
        BatchMayLog config pipeline answers scope files results said ∧
        given = .ok results ∧
        log = before ++ said

/-! ## The run in order -/

theorem inOrderMayLog_runInOrder
    {failFast : Bool} {files : List Path} {log : List Event}
    (h : (runInOrder failFast analyze files).MayLog scope log) :
    InOrderMayLog failFast analyze scope files
      ((runInOrder failFast analyze files).value scope) log := by
  induction files generalizing log with
  | nil =>
      rw [Logged.mayLog_pure_iff.1 h]
      exact .none
  | cons p rest ih =>
      obtain ⟨said, behind, hsaid, hbehind, rfl⟩ := h.exists_of_bind
      have houtcome : OutcomeWithLog analyze p ((analyze p).value scope) said :=
        ⟨scope, rfl, hsaid⟩
      rw [runInOrder, Logged.value_bind]
      cases hstop : ((analyze p).value scope).isFailure && failFast with
      | true =>
          rw [hstop] at hbehind
          exact .stop houtcome hstop hbehind.of_bind_pure
      | false =>
          rw [hstop] at hbehind
          exact .next houtcome hstop (ih hbehind.of_bind_pure)

/-- A worker goes through its slice as a batch does that never stops. -/
theorem mapEach_eq_runInOrder
    (slice : List Path) :
    Logged.mapEach analyze slice = runInOrder false analyze slice := by
  induction slice with
  | nil =>
      rfl
  | cons p rest ih =>
      rw [runInOrder, Logged.mapEach, ih]
      simp only [Bool.and_false, Bool.false_eq_true, if_false]
      rfl

theorem exists_parts_of_mayLog
    {slices : List (List Path)} {log : List Event}
    (h : (Logged.mapEach (Logged.mapEach analyze) slices).MayLog scope log) :
    ∃ parts : List (List Outcome × List Event),
      List.Forall₂ (fun slice part =>
        InOrderMayLog false analyze scope slice part.1 part.2)
        slices parts ∧
      (Logged.mapEach (Logged.mapEach analyze) slices).value scope = parts.map Prod.fst ∧
      log = (parts.map Prod.snd).flatten := by
  induction slices generalizing log with
  | nil =>
      exact ⟨[], .nil, rfl, Logged.mayLog_pure_iff.1 h⟩
  | cons slice slices ih =>
      obtain ⟨said, behind, hsaid, hbehind, rfl⟩ := Logged.MayLog.exists_of_bind h
      obtain ⟨parts, hparts, hvalue, rfl⟩ := ih (Logged.MayLog.of_bind_pure hbehind)
      have hslice :
          InOrderMayLog false analyze scope slice
            ((Logged.mapEach analyze slice).value scope) said := by
        rw [mapEach_eq_runInOrder] at hsaid ⊢
        exact inOrderMayLog_runInOrder hsaid
      refine ⟨(_, said) :: parts, .cons hslice hparts, ?_, rfl⟩
      rw [List.map_cons, ← hvalue]
      rfl

theorem chunkMayLog_runChunk
    {workers : Nat} {chunk : List Path} {log : List Event}
    (h : (runChunk workers analyze chunk).MayLog scope log) :
    ChunkMayLog analyze scope workers chunk
      ((runChunk workers analyze chunk).value scope) log := by
  obtain ⟨parts, hparts, hvalue, rfl⟩ := exists_parts_of_mayLog h.of_bind_pure
  refine ⟨parts, hparts, ?_, merged_flatten _⟩
  rw [runChunk, Logged.value_bind, hvalue, Logged.value_pure, List.flatMap_def]

theorem chunksMayLog_runChunks
    {failFast : Bool} {workers : Nat}
    {chunks : List (List Path)} {log : List Event}
    (h : (runChunks failFast workers analyze chunks).MayLog scope log) :
    ChunksMayLog failFast workers analyze scope chunks
      ((runChunks failFast workers analyze chunks).value scope) log := by
  induction chunks generalizing log with
  | nil =>
      rw [Logged.mayLog_pure_iff.1 h]
      exact .none
  | cons chunk rest ih =>
      obtain ⟨said, behind, hsaid, hbehind, rfl⟩ := h.exists_of_bind
      have hchunk := chunkMayLog_runChunk hsaid
      rw [runChunks, Logged.value_bind]
      cases hstop :
          failFast && ((runChunk workers analyze chunk).value scope).any
            Outcome.isFailure with
      | true =>
          rw [hstop] at hbehind
          exact .stop hchunk hstop hbehind.of_bind_pure
      | false =>
          rw [hstop] at hbehind
          exact .next hchunk hstop (ih hbehind.of_bind_pure)

theorem filesMayLog_runFiles
    {config : BatchConfig} {files : List Path} {log : List Event}
    (h : (runFiles config analyze files).MayLog scope log) :
    FilesMayLog config analyze scope files
      ((runFiles config analyze files).value scope) log := by
  unfold FilesMayLog
  unfold runFiles at h ⊢
  split at h
  · next hone =>
      rw [if_pos hone, if_pos hone]
      exact inOrderMayLog_runInOrder h
  · next hseveral =>
      rw [if_neg hseveral, if_neg hseveral]
      obtain ⟨shared, said, hshared, hsaid, rfl⟩ := h.exists_of_bind
      exact ⟨shared, said, hshared, chunksMayLog_runChunks hsaid, rfl⟩

/-- What the run in order gives and says belongs together. -/
theorem directoryMayLog_analyzeDirectory
    {config : BatchConfig}
    {pipeline : Pipeline} {root : FileTree} {dir : Path}
    {log : List Event}
    (h : (analyzeDirectory config pipeline root dir).MayLog scope log) :
    DirectoryMayLog config pipeline root (.ofTree root) dir scope
      ((analyzeDirectory config pipeline root dir).value scope) log := by
  obtain ⟨before, behind, hbefore, hbehind, rfl⟩ := h.exists_of_bind
  refine ⟨before, hbefore, ?_⟩
  rw [analyzeDirectory, Logged.value_bind]
  cases hfiles : (Discovery.discover config root dir).value scope with
  | error e =>
      rw [hfiles] at hbehind
      rw [Logged.mayLog_pure_iff.1 hbehind, List.append_nil]
      exact ⟨rfl, rfl⟩
  | ok files =>
      rw [hfiles] at hbehind
      obtain ⟨said, rest, hsaid, hrest, rfl⟩ := hbehind.exists_of_bind
      have hrun := filesMayLog_runFiles hsaid
      rw [analyzeOne_eq] at hrun
      refine ⟨_, said ++ rest, ⟨_, said, rest, hrun, rfl, ?_, rfl⟩, ?_, rfl⟩
      · rw [← analyzeOne_eq]
        exact hrest.of_events (by simp [logResults])
      · rw [← analyzeOne_eq]
        rfl

/-! ## The outcomes without the log -/

theorem OutcomeWithLog.outcomeOf
    {p : Path} {o : Outcome} {said : List Event}
    (h : OutcomeWithLog analyze p o said) :
    OutcomeOf analyze p o := by
  obtain ⟨own, ho, -⟩ := h
  exact ⟨own, ho⟩

theorem inOrderMayReport_of_inOrderMayLog
    {failFast : Bool} {files : List Path} {os : List Outcome} {log : List Event}
    (h : InOrderMayLog failFast analyze scope files os log) :
    InOrderMayReport failFast analyze files os := by
  induction h with
  | none =>
      exact .none
  | stop houtcome hstop _ =>
      exact .stop houtcome.outcomeOf hstop
  | next houtcome hstop _ ih =>
      exact .next houtcome.outcomeOf hstop ih

theorem chunkMayReport_of_chunkMayLog
    {workers : Nat} {chunk : List Path} {os : List Outcome} {log : List Event}
    (h : ChunkMayLog analyze scope workers chunk os log) :
    ChunkMayReport analyze workers chunk os := by
  obtain ⟨parts, hparts, rfl, -⟩ := h
  have houtcomes :
      List.Forall₂ (List.Forall₂ (OutcomeOf analyze)) (slices workers chunk)
        (parts.map Prod.fst) := by
    rw [List.forall₂_map_right_iff]
    refine hparts.imp fun slice part hpart => ?_
    exact forall₂_of_inOrderMayReport (inOrderMayReport_of_inOrderMayLog hpart)
  rw [List.flatMap_def]
  exact chunkMayReport_of_slices houtcomes

theorem chunksMayReport_of_chunksMayLog
    {failFast : Bool} {workers : Nat}
    {chunks : List (List Path)} {os : List Outcome} {log : List Event}
    (h : ChunksMayLog failFast workers analyze scope chunks os log) :
    ChunksMayReport failFast workers analyze chunks os := by
  induction h with
  | none =>
      exact .none
  | stop hchunk hstop _ =>
      exact .stop (chunkMayReport_of_chunkMayLog hchunk) hstop
  | next hchunk hstop _ ih =>
      exact .next (chunkMayReport_of_chunkMayLog hchunk) hstop ih

/-- The outcomes that come with a log are those that workers can have who take turns. -/
theorem mayReport_of_filesMayLog
    {config : BatchConfig} {files : List Path} {os : List Outcome} {log : List Event}
    (h : FilesMayLog config analyze scope files os log) :
    MayReport config analyze files os := by
  unfold FilesMayLog at h
  unfold MayReport
  split at h
  · next hone =>
      rw [if_pos hone]
      exact inOrderMayReport_of_inOrderMayLog h
  · next hseveral =>
      obtain ⟨shared, said, -, hsaid, -⟩ := h
      rw [if_neg hseveral]
      exact chunksMayReport_of_chunksMayLog hsaid

end Batch
end TableLexer
