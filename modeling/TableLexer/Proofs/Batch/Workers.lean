import Mathlib.Data.List.Forall2
import Mathlib.Logic.Relation
import TableLexer.Proofs.Batch.Pieces

/-!
# Workers that take turns

Each worker of a chunk has the files that it still has to analyze and the outcomes
that it has so far.  In a turn one of the workers, any of them, analyzes the next of
its files, at a time of its own.  When no turn is left, the outcomes are joined in the
order of the slices.

One turn keeps `Progress`: what a worker has done and what it has left make up its
slice.  So whoever takes the turns, a chunk has one outcome for each of its files, in
the order of the files (`forall₂_of_mayReport`).  `Batch.MayReport` says which
outcomes a batch can have with turns in any order, and the run in order is one of
these cases (`mayReport_runFiles`).
-/

namespace TableLexer
namespace Batch

/-- The files that a worker has left, and the outcomes of those before them. -/
structure Worker where
  todo : List Path
  done : List Outcome

/-- A worker with its slice. -/
def Worker.start (slice : List Path) : Worker :=
  ⟨slice, []⟩

variable {analyze : Path → Logged Outcome}

/-- The outcome is that of the file, at some time. -/
def OutcomeOf
    (analyze : Path → Logged Outcome)
    (p : Path)
    (o : Outcome) :
    Prop :=
  ∃ scope, o = (analyze p).value scope

/-- One of the workers analyzes the next of its files. -/
inductive Turn (analyze : Path → Logged Outcome) : List Worker → List Worker → Prop
  | take
      {left right : List Worker}
      {p : Path} {rest : List Path}
      {done : List Outcome} {o : Outcome} :
      OutcomeOf analyze p o →
      Turn analyze (left ++ ⟨p :: rest, done⟩ :: right)
        (left ++ ⟨rest, done ++ [o]⟩ :: right)

/-- The outcomes that a chunk can have: its workers take turns until none is left. -/
def ChunkMayReport
    (analyze : Path → Logged Outcome)
    (workers : Nat)
    (chunk : List Path)
    (os : List Outcome) :
    Prop :=
  ∃ last,
    Relation.ReflTransGen (Turn analyze) ((slices workers chunk).map Worker.start) last ∧
    (∀ next, ¬ Turn analyze last next) ∧
    os = last.flatMap Worker.done

/-- The outcomes that chunks can have one after the other. -/
inductive ChunksMayReport
    (failFast : Bool)
    (workers : Nat)
    (analyze : Path → Logged Outcome) :
    List (List Path) → List Outcome → Prop
  | none :
      ChunksMayReport failFast workers analyze [] []
  | stop
      {chunk : List Path} {rest : List (List Path)} {os : List Outcome} :
      ChunkMayReport analyze workers chunk os →
      (failFast && os.any Outcome.isFailure) = true →
      ChunksMayReport failFast workers analyze (chunk :: rest) os
  | next
      {chunk : List Path} {rest : List (List Path)} {os more : List Outcome} :
      ChunkMayReport analyze workers chunk os →
      (failFast && os.any Outcome.isFailure) = false →
      ChunksMayReport failFast workers analyze rest more →
      ChunksMayReport failFast workers analyze (chunk :: rest) (os ++ more)

/-- The outcomes that files can have one after the other. -/
inductive InOrderMayReport
    (failFast : Bool)
    (analyze : Path → Logged Outcome) :
    List Path → List Outcome → Prop
  | none :
      InOrderMayReport failFast analyze [] []
  | stop
      {p : Path} {rest : List Path} {o : Outcome} :
      OutcomeOf analyze p o →
      (o.isFailure && failFast) = true →
      InOrderMayReport failFast analyze (p :: rest) [o]
  | next
      {p : Path} {rest : List Path} {o : Outcome} {more : List Outcome} :
      OutcomeOf analyze p o →
      (o.isFailure && failFast) = false →
      InOrderMayReport failFast analyze rest more →
      InOrderMayReport failFast analyze (p :: rest) (o :: more)

/-- The outcomes that the files of a batch can have. -/
def MayReport
    (config : BatchConfig)
    (analyze : Path → Logged Outcome)
    (files : List Path)
    (os : List Outcome) :
    Prop :=
  if config.workers = 1 ∨ files.length = 1 then
    InOrderMayReport config.failFast analyze files os
  else
    ChunksMayReport config.failFast config.workers analyze
      (piecesOf (chunkSize files.length config.workers) files) os

/-! ## What every order of turns gives -/

/-- What the worker has done and what it has left make up its slice. -/
def Progress
    (analyze : Path → Logged Outcome)
    (slice : List Path)
    (w : Worker) :
    Prop :=
  ∃ taken,
    slice = taken ++ w.todo ∧
    List.Forall₂ (OutcomeOf analyze) taken w.done

/-- One turn keeps the progress of every worker. -/
theorem Turn.progress
    {slices : List (List Path)} {ws next : List Worker}
    (h : List.Forall₂ (Progress analyze) slices ws)
    (hturn : Turn analyze ws next) :
    List.Forall₂ (Progress analyze) slices next := by
  obtain @⟨left, right, p, rest, done, o, ho⟩ := hturn
  have hleft := List.forall₂_take_append slices left (⟨p :: rest, done⟩ :: right) h
  have hright := List.forall₂_drop_append slices left (⟨p :: rest, done⟩ :: right) h
  rw [← List.take_append_drop left.length slices]
  refine List.rel_append hleft ?_
  cases hdrop : slices.drop left.length with
  | nil =>
      rw [hdrop] at hright
      cases hright
  | cons slice others =>
      rw [hdrop] at hright
      obtain ⟨⟨taken, hslice, htaken⟩, hothers⟩ := List.forall₂_cons.1 hright
      refine List.Forall₂.cons ⟨taken ++ [p], ?_, ?_⟩ hothers
      · simp [hslice]
      · exact List.rel_append htaken (List.Forall₂.cons ho List.Forall₂.nil)

theorem progress_of_turns
    {slices : List (List Path)} {ws : List Worker}
    (h : Relation.ReflTransGen (Turn analyze) (slices.map Worker.start) ws) :
    List.Forall₂ (Progress analyze) slices ws := by
  induction h with
  | refl =>
      rw [List.forall₂_map_right_iff, List.forall₂_same]
      intro slice _
      exact ⟨[], rfl, List.Forall₂.nil⟩
  | tail _ hturn ih =>
      exact hturn.progress ih

/-- As long as a worker has a file left there is a turn. -/
theorem todo_eq_nil_of_no_turn
    {ws : List Worker}
    (h : ∀ next, ¬ Turn analyze ws next) :
    ∀ w ∈ ws, w.todo = [] := by
  intro w hw
  obtain ⟨left, right, rfl⟩ := List.append_of_mem hw
  obtain ⟨todo, done⟩ := w
  cases todo with
  | nil =>
      rfl
  | cons p rest =>
      exact absurd (Turn.take ⟨⟨.epoch, none⟩, rfl⟩) (h _)

theorem forall₂_of_no_turn
    {slices : List (List Path)} {ws : List Worker}
    (h : List.Forall₂ (Progress analyze) slices ws)
    (hlast : ∀ w ∈ ws, w.todo = []) :
    List.Forall₂ (OutcomeOf analyze) slices.flatten (ws.flatMap Worker.done) := by
  induction h with
  | nil =>
      exact List.Forall₂.nil
  | @cons slice w slices ws hw _ ih =>
      obtain ⟨taken, hslice, htaken⟩ := hw
      rw [hlast w (by simp), List.append_nil] at hslice
      subst hslice
      exact List.rel_append htaken (ih fun x hx => hlast x (List.mem_cons_of_mem w hx))

theorem forall₂_of_chunkMayReport
    {workers : Nat} {chunk : List Path} {os : List Outcome}
    (h : ChunkMayReport analyze workers chunk os) :
    List.Forall₂ (OutcomeOf analyze) chunk os := by
  obtain ⟨last, hturns, hlast, rfl⟩ := h
  have houtcomes :=
    forall₂_of_no_turn (progress_of_turns hturns) (todo_eq_nil_of_no_turn hlast)
  rwa [slices, flatten_piecesOf] at houtcomes

theorem forall₂_of_chunksMayReport
    {workers : Nat} {chunks : List (List Path)} {os : List Outcome}
    (h : ChunksMayReport false workers analyze chunks os) :
    List.Forall₂ (OutcomeOf analyze) chunks.flatten os := by
  induction h with
  | none =>
      exact List.Forall₂.nil
  | stop _ hstop =>
      cases hstop
  | next hchunk _ _ ih =>
      exact List.rel_append (forall₂_of_chunkMayReport hchunk) ih

theorem forall₂_of_inOrderMayReport
    {files : List Path} {os : List Outcome}
    (h : InOrderMayReport false analyze files os) :
    List.Forall₂ (OutcomeOf analyze) files os := by
  induction h with
  | none =>
      exact List.Forall₂.nil
  | stop _ hstop =>
      simp at hstop
  | next ho _ _ ih =>
      exact List.Forall₂.cons ho ih

/-- A batch that does not stop after a failure has one outcome for each of its files, in
the order of the files. -/
theorem forall₂_of_mayReport
    {config : BatchConfig} {files : List Path} {os : List Outcome}
    (hoff : config.failFast = false)
    (h : MayReport config analyze files os) :
    List.Forall₂ (OutcomeOf analyze) files os := by
  unfold MayReport at h
  rw [hoff] at h
  split at h
  · exact forall₂_of_inOrderMayReport h
  · have houtcomes := forall₂_of_chunksMayReport h
    rwa [flatten_piecesOf] at houtcomes

/-! ## The run in order -/

/-- A worker can take all its turns before the others go on. -/
theorem turns_of_worker
    {slice : List Path} {os : List Outcome}
    (h : List.Forall₂ (OutcomeOf analyze) slice os)
    (left right : List Worker)
    (done : List Outcome) :
    Relation.ReflTransGen (Turn analyze)
      (left ++ ⟨slice, done⟩ :: right)
      (left ++ ⟨[], done ++ os⟩ :: right) := by
  induction h generalizing done with
  | nil =>
      rw [List.append_nil]
  | @cons p o rest os houtcome _ ih =>
      have hrest := ih (done ++ [o])
      rw [List.append_assoc] at hrest
      exact Relation.ReflTransGen.head (Turn.take houtcome) hrest

theorem turns_of_slices
    {slices : List (List Path)} {outcomes : List (List Outcome)}
    (h : List.Forall₂ (List.Forall₂ (OutcomeOf analyze)) slices outcomes)
    (left : List Worker) :
    Relation.ReflTransGen (Turn analyze)
      (left ++ slices.map Worker.start)
      (left ++ outcomes.map fun os => ⟨[], os⟩) := by
  induction h generalizing left with
  | nil =>
      exact Relation.ReflTransGen.refl
  | @cons slice os slices outcomes hslice _ ih =>
      have hfirst :
          Relation.ReflTransGen (Turn analyze)
            (left ++ ⟨slice, []⟩ :: slices.map Worker.start)
            (left ++ ⟨[], [] ++ os⟩ :: slices.map Worker.start) :=
        turns_of_worker hslice left (slices.map Worker.start) []
      have hrest := ih (left ++ [⟨[], os⟩])
      rw [List.append_assoc, List.append_assoc] at hrest
      exact hfirst.trans hrest

theorem no_turn_of_todo
    {ws : List Worker}
    (h : ∀ w ∈ ws, w.todo = []) :
    ∀ next, ¬ Turn analyze ws next := by
  rintro _ @⟨left, right, p, rest, done, o, _⟩
  have hnil := h ⟨p :: rest, done⟩ (by simp)
  cases hnil

/-- Any outcomes of the slices are possible for the chunk. -/
theorem chunkMayReport_of_slices
    {workers : Nat} {chunk : List Path} {outcomes : List (List Outcome)}
    (h : List.Forall₂ (List.Forall₂ (OutcomeOf analyze)) (slices workers chunk) outcomes) :
    ChunkMayReport analyze workers chunk outcomes.flatten := by
  refine ⟨_, turns_of_slices h [], no_turn_of_todo ?_, ?_⟩
  · intro w hw
    rw [List.nil_append] at hw
    obtain ⟨os, _, rfl⟩ := List.mem_map.1 hw
    rfl
  · simp [List.flatMap_def, Function.comp_def]

theorem chunkMayReport_runChunk
    (workers : Nat)
    (chunk : List Path)
    (scope : Scope) :
    ChunkMayReport analyze workers chunk
      ((runChunk workers analyze chunk).value scope) := by
  have houtcomes :
      List.Forall₂ (List.Forall₂ (OutcomeOf analyze)) (slices workers chunk)
        ((Logged.mapEach (Logged.mapEach analyze) (slices workers chunk)).value
          scope) := by
    simp only [Logged.value_mapEach, List.forall₂_map_right_iff, List.forall₂_same]
    exact fun slice _ p _ => ⟨scope, rfl⟩
  exact chunkMayReport_of_slices houtcomes

theorem chunksMayReport_runChunks
    (failFast : Bool)
    (workers : Nat)
    (chunks : List (List Path))
    (scope : Scope) :
    ChunksMayReport failFast workers analyze chunks
      ((runChunks failFast workers analyze chunks).value scope) := by
  induction chunks with
  | nil =>
      exact .none
  | cons chunk rest ih =>
      have hchunk :
          ChunkMayReport analyze workers chunk
            ((runChunk workers analyze chunk).value scope) :=
        chunkMayReport_runChunk workers chunk scope
      rw [runChunks, Logged.value_bind]
      cases hstop :
          failFast && ((runChunk workers analyze chunk).value scope).any
            Outcome.isFailure with
      | true =>
          exact .stop hchunk hstop
      | false =>
          exact .next hchunk hstop ih

theorem inOrderMayReport_runInOrder
    (failFast : Bool)
    (files : List Path)
    (scope : Scope) :
    InOrderMayReport failFast analyze files
      ((runInOrder failFast analyze files).value scope) := by
  induction files with
  | nil =>
      exact .none
  | cons p rest ih =>
      rw [runInOrder, Logged.value_bind]
      cases hstop : ((analyze p).value scope).isFailure && failFast with
      | true =>
          exact .stop ⟨scope, rfl⟩ hstop
      | false =>
          exact .next ⟨scope, rfl⟩ hstop ih

/-- What the run in order reports can be reported. -/
theorem mayReport_runFiles
    (config : BatchConfig)
    (files : List Path)
    (scope : Scope) :
    MayReport config analyze files ((runFiles config analyze files).value scope) := by
  unfold MayReport runFiles
  split
  · exact inOrderMayReport_runInOrder _ files scope
  · exact chunksMayReport_runChunks _ _ _ scope

end Batch
end TableLexer
