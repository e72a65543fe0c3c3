import TableLexer.Batch.Discovery

/-!
# The search for source files

A search goes through the files of a walk and looks at its limit behind every candidate
that it finds.  So it finds the first candidates of the walk: all of them without a limit,
and otherwise as many as the limit says, but one at least, since the limit is looked at
too late to keep it from the first (`gather_of_limit`).

What it has found is put in the order of the paths, which neither adds nor drops a file
(`inPathOrder_perm`).
-/

namespace TableLexer
namespace Discovery

section Gather

variable {language : Option Language}

theorem gather_of_unlimited
    (found : Nat) (files : List Path) :
    gather language none found files = (files.filter (isCandidate language), false) := by
  induction files generalizing found with
  | nil =>
      rfl
  | cons q files ih =>
      rw [gather, List.filter_cons, ih, ih]
      split <;> rfl

/-- With a limit the search finds as many candidates as are missing to the limit, but
one at least. -/
theorem gather_of_limit
    (limit found : Nat) (files : List Path) :
    (gather language (some limit) found files).1
      =
    (files.filter (isCandidate language)).take (max (limit - found) 1) := by
  induction files generalizing found with
  | nil =>
      rw [gather, List.filter_nil, List.take_nil]
  | cons q files ih =>
      rw [gather, List.filter_cons]
      by_cases hq : isCandidate language q = true
      · rw [if_pos hq, if_pos hq, reaches, Option.any_some]
        by_cases hfull : limit ≤ found + 1
        · have hone : max (limit - found) 1 = 1 := by
            omega
          rw [if_pos (decide_eq_true hfull), hone, List.take_succ_cons, List.take_zero]
        · have hmore : max (limit - found) 1 = max (limit - (found + 1)) 1 + 1 := by
            omega
          rw [if_neg (by simpa using hfull), hmore, List.take_succ_cons, ← ih]
      · rw [if_neg hq, if_neg hq, ih]

end Gather

theorem insertPath_perm
    (p : Path) (files : List Path) :
    (insertPath p files).Perm (p :: files) := by
  induction files with
  | nil =>
      exact List.Perm.refl _
  | cons q files ih =>
      rw [insertPath]
      split
      · exact (List.Perm.cons q ih).trans (List.Perm.swap p q files)
      · exact List.Perm.refl _

theorem inPathOrder_perm
    (files : List Path) :
    (inPathOrder files).Perm files := by
  induction files with
  | nil =>
      exact List.Perm.refl _
  | cons p files ih =>
      exact (insertPath_perm p _).trans (List.Perm.cons p ih)

/-- The answer for a directory: what the search has found, in the order of the paths, or
an error if that is nothing. -/
theorem value_discover_of_folder
    {config : BatchConfig} {root tree : FileTree} {p : Path}
    (hfolder : folder? root p = some tree)
    (scope : Scope) :
    (discover config root p).value scope
      =
    let files :=
      (gather config.language config.maxFiles 0
        (walkAll config.recursive p tree.children)).1
    if files.isEmpty then .error (.noSourceFiles p.text) else .ok (inPathOrder files) := by
  rw [discover, Logged.value_bind, hfolder]
  dsimp only
  obtain ⟨files, full⟩ :=
    gather config.language config.maxFiles 0 (walkAll config.recursive p tree.children)
  cases full <;> cases files <;> rfl

end Discovery
end TableLexer
