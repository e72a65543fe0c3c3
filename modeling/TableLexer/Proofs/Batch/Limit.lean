import TableLexer.Proofs.Batch.Search
import TableLexer.Proofs.Batch.Stopping

/-!
# The limit of a search

A search with a limit finds as many files as there are candidates, but no more than the
limit says (`Discovery.length_of_limit`), with one exception.  The limit is looked at
when a file has been found, and not before, so a limit of no files is taken for a limit
of one (`search_passes_limit_of_none`).

A batch processes no more files than are discovered, and the first of them in any case.
So its files are within the limit exactly if the limit is not zero, whether or not it
stops after a failure, and whatever the turns of its workers.
-/

namespace TableLexer

theorem length_uptoFirst_pos_of_ne_nil
    {α : Type} {p : α → Bool} {xs : List α}
    (h : xs ≠ []) :
    0 < (uptoFirst p xs).length := by
  cases hany : xs.any p with
  | true =>
      exact length_uptoFirst_pos hany
  | false =>
      rw [uptoFirst_eq_self hany]
      exact List.length_pos_of_ne_nil h

namespace Discovery

variable {config : BatchConfig} {root : FileTree} {p : Path} {scope : Scope}
variable {files : List Path}

/-- Only a folder has files to discover, and only if the search finds any. -/
theorem exists_found_of_discover
    (h : (discover config root p).value scope = .ok files) :
    ∃ tree,
      folder? root p = some tree ∧
      files ≠ [] ∧
      files
        =
      inPathOrder
        (gather config.language config.maxFiles 0
          (walkAll config.recursive p tree.children)).1 := by
  cases hfolder : folder? root p with
  | none =>
      rw [discover, Logged.value_bind, hfolder] at h
      cases h
  | some tree =>
      rw [value_discover_of_folder hfolder] at h
      simp only at h
      split at h
      · cases h
      · next hfound =>
          cases h
          refine ⟨tree, rfl, ?_, rfl⟩
          rw [ne_eq, ← List.isEmpty_iff, (inPathOrder_perm _).isEmpty_eq]
          exact hfound

/-- With a limit all candidates are discovered, but no more than it says, or than one. -/
theorem length_of_limit
    {limit : Nat}
    (hlimit : config.maxFiles = some limit)
    (h : (discover config root p).value scope = .ok files) :
    ∃ tree,
      folder? root p = some tree ∧
      0 < files.length ∧
      files.length = min (max limit 1) (candidates config p tree).length := by
  obtain ⟨tree, hfolder, hne, hfiles⟩ := exists_found_of_discover h
  refine ⟨tree, hfolder, List.length_pos_of_ne_nil hne, ?_⟩
  rw [hfiles, candidates, belowAll, (inPathOrder_perm _).length_eq,
    (inPathOrder_perm _).length_eq, hlimit, gather_of_limit, List.length_take,
    Nat.sub_zero]

end Discovery

namespace Batch

/-- A batch processes some of the files that are discovered, the first one in any case. -/
theorem MayGive.processed_bounds
    {config : BatchConfig} {pipeline : Pipeline} {root : FileTree} {p : Path}
    {results : BatchResults}
    (h : MayGive config pipeline root p (.ok results)) :
    ∃ scope files,
      (Discovery.discover config root p).value scope = .ok files ∧
      results.discovered = files.length ∧
      0 < results.processed ∧
      results.processed ≤ files.length := by
  have hgives := h
  obtain ⟨scope, hgiven⟩ := h
  cases hfiles : (Discovery.discover config root p).value scope with
  | error e =>
      rw [hfiles] at hgiven
      cases hgiven
  | ok files =>
      obtain ⟨_, _, hne, _⟩ := Discovery.exists_found_of_discover hfiles
      cases hfast : config.failFast with
      | false =>
          obtain ⟨_, heq, hof, hdiscovered⟩ := hgives.resultsOf_files hfast hfiles
          cases heq
          rw [hof.processed]
          exact ⟨scope, files, hfiles, hdiscovered, List.length_pos_of_ne_nil hne,
            Nat.le_refl _⟩
      | true =>
          obtain ⟨_, heq, hof, hdiscovered⟩ := hgives.resultsOf_reached hfast hfiles
          cases heq
          rw [hof.processed]
          exact ⟨scope, files, hfiles, hdiscovered,
            Nat.lt_of_lt_of_le (length_uptoFirst_pos_of_ne_nil hne)
              uptoFirst_prefix_reached.length_le,
            reached_isPrefix.length_le⟩

/--
The limit of a search.  In every file tree, with a limit as many files are discovered as
there are candidates, but no more than the limit says or than one; and a batch
processes no more than these.  So the files of both are within the limit exactly if
it is one at least.
-/
theorem files_within_limit_iff
    (config : BatchConfig)
    (limit : Nat)
    (root : FileTree) (p : Path) :
    let limited := { config with maxFiles := some limit }
    (∀ scope files,
      (Discovery.discover limited root p).value scope = .ok files →
      (∃ tree,
        Discovery.folder? root p = some tree ∧
        files.length = min (max limit 1) (Discovery.candidates config p tree).length) ∧
      (files.length ≤ limit ↔ 1 ≤ limit)) ∧
    ∀ pipeline results,
      MayGive limited pipeline root p (.ok results) →
      results.processed ≤ results.discovered ∧
      results.discovered ≤ max limit 1 ∧
      (results.processed ≤ limit ↔ 1 ≤ limit) := by
  intro limited
  constructor
  · intro scope files hfiles
    obtain ⟨tree, hfolder, hpos, hlength⟩ := Discovery.length_of_limit rfl hfiles
    refine ⟨⟨tree, hfolder, hlength⟩, ?_⟩
    omega
  · intro pipeline results hresults
    obtain ⟨scope, files, hfiles, hdiscovered, hpos, hprocessed⟩ :=
      hresults.processed_bounds
    obtain ⟨_, _, _, hlength⟩ := Discovery.length_of_limit rfl hfiles
    omega

/-- Of three files a search with a limit of two finds two, and a batch that stops at the
first, which is not text, processes two at most. -/
theorem files_within_limit_of_two :
    let root : FileTree :=
      .folder [("a.c", .file ⟨#[0xff]⟩), ("b.c", .file .empty), ("c.c", .file .empty)]
    let config : BatchConfig := { threads := 2, failFast := true }
    let limited := { config with maxFiles := some 2 }
    let pipeline : Pipeline := ⟨⟨true, true⟩, ⟨true⟩⟩
    (Discovery.discover limited root ⟨"."⟩).value ⟨.epoch, none⟩
      = .ok [⟨"./a.c"⟩, ⟨"./b.c"⟩] ∧
    [(⟨"./a.c"⟩ : Path), ⟨"./b.c"⟩].length ≤ 2 ∧
    ∃ results,
      MayGive limited pipeline root ⟨"."⟩ (.ok results) ∧
      results.processed ≤ 2 := by
  intro root config limited pipeline
  have hfiles :
      (Discovery.discover limited root ⟨"."⟩).value ⟨.epoch, none⟩
        =
      .ok [⟨"./a.c"⟩, ⟨"./b.c"⟩] := by
    decide +kernel
  have hgives := mayGive_analyzeDirectory limited pipeline root ⟨"."⟩ ⟨.epoch, none⟩
  obtain ⟨results, hresults, _⟩ := hgives.resultsOf_reached rfl hfiles
  rw [hresults] at hgives
  obtain ⟨hfound, hprocessed⟩ := files_within_limit_iff config 2 root ⟨"."⟩
  exact ⟨hfiles, (hfound _ _ hfiles).2.2 (by decide), results, hgives,
    (hprocessed pipeline results hgives).2.2.2 (by decide)⟩

/-- A search with a limit of no files finds one, and a batch processes it. -/
theorem search_passes_limit_of_none :
    let root : FileTree := .folder [("a.c", .file .empty)]
    let limited : BatchConfig := { threads := 1, maxFiles := some 0 }
    let pipeline : Pipeline := ⟨⟨true, true⟩, ⟨true⟩⟩
    (Discovery.discover limited root ⟨"."⟩).value ⟨.epoch, none⟩ = .ok [⟨"./a.c"⟩] ∧
    ¬ [(⟨"./a.c"⟩ : Path)].length ≤ 0 ∧
    ∃ results,
      MayGive limited pipeline root ⟨"."⟩ (.ok results) ∧
      ¬ results.processed ≤ 0 := by
  intro root limited pipeline
  have hfiles :
      (Discovery.discover limited root ⟨"."⟩).value ⟨.epoch, none⟩ = .ok [⟨"./a.c"⟩] := by
    decide +kernel
  have hgives := mayGive_analyzeDirectory limited pipeline root ⟨"."⟩ ⟨.epoch, none⟩
  obtain ⟨results, hresults, hof, _⟩ := hgives.resultsOf_files rfl hfiles
  rw [hresults] at hgives
  refine ⟨hfiles, by decide, results, hgives, ?_⟩
  rw [hof.processed]
  decide

end Batch
end TableLexer
