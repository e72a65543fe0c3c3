import TableLexer.Proofs.Batch.Search
import TableLexer.Proofs.Files.Order

/-!
# Discovery in the order of the paths

In a file tree that is in order, the files of a directory are discovered in the order of
their paths, part by part.  The search itself already meets them that way
(`pairwise_walkAll`), so what it has found when it stops is in order
(`inPathOrder_eq_self`), and a limit leaves the first files of all
(`discover_lists_first_files`).

The order of the parts is not that of the texts: `web/a.c` stands in front of
`web.old/a.c`, although a dot comes before a slash.
-/

namespace TableLexer

namespace Path

/-- The path of the names inside a directory. -/
def joinAll (p : Path) (place : List String) : Path :=
  place.foldl join p

theorem parts_joinAll
    {p : Path} {place : List String}
    (h : ∀ name ∈ place, IsName name) :
    (p.joinAll place).parts = p.parts ++ place := by
  induction place generalizing p with
  | nil =>
      exact (List.append_nil _).symm
  | cons name place ih =>
      obtain ⟨hname, hplace⟩ := List.forall_mem_cons.1 h
      have hjoin := @ih (p.join name) hplace
      rw [parts_join hname, List.append_assoc] at hjoin
      exact hjoin

end Path

namespace FileTree

variable {root tree : FileTree} {p : Path} {place names : List String}

/-- A path that is looked up leads to what is found. -/
theorem exists_leadsTo_of_get
    {children : List (String × FileTree)}
    (h : root.get p = .ok (folder children)) :
    ∃ place, root.LeadsTo p place ∧ root.at? place = some (folder children) := by
  unfold get at h
  split at h
  · cases h
  · next hnul =>
      split at h
      · cases h
      · split at h
        · cases h
        · next place hfollow =>
            split at h
            · cases h
            · split at h <;> cases h
            · next cs hat =>
                cases h
                exact ⟨place, ⟨by simpa using hnul,
                  hfollow, by simp [entryAt?, hat, entry]⟩, hat⟩

/-- Only folders have something below them. -/
theorem entryAt?_of_below
    {name : String} {e : Entry}
    (h : root.entryAt? (place ++ name :: names) = some e) :
    root.entryAt? place = some .folder := by
  unfold entryAt? at h ⊢
  rw [at?_append] at h
  cases hat : root.at? place with
  | none =>
      simp [hat] at h
  | some t =>
      cases t with
      | folder children =>
          rfl
      | file content =>
          simp [hat, at?, child?, FileTree.children] at h

theorem LeadsTo.join
    {name : String}
    (h : root.LeadsTo p place)
    (hname : Path.IsName name)
    (he : root.entryAt? (place ++ [name]) = some .folder) :
    root.LeadsTo (p.join name) (place ++ [name]) :=
  ⟨(Path.hasNul_join hname).trans h.no_nul, h.follow_join hname he, he⟩

/-- A file below a folder is read by its path. -/
theorem LeadsTo.readBytes_joinAll
    (h : root.LeadsTo p place)
    (hnames : ∀ name ∈ names, Path.IsName name)
    {content : ByteArray}
    (he : root.entryAt? (place ++ names) = some (.file content)) :
    root.readBytes (p.joinAll names) = .ok content := by
  induction names generalizing p place with
  | nil =>
      rw [List.append_nil, h.entry_eq] at he
      cases he
  | cons name names ih =>
      obtain ⟨hname, hbelow⟩ := List.forall_mem_cons.1 hnames
      cases names with
      | nil =>
          exact h.readBytes_join hname he
      | cons next names =>
          have hsplit : place ++ name :: next :: names =
              (place ++ [name]) ++ next :: names := by
            simp
          rw [hsplit] at he
          exact ih (h.join hname (entryAt?_of_below he)) hbelow he

end FileTree

namespace Discovery

open FileTree (filePlaces childPlaces Ordered OrderedChildren)

mutual

/-- The walk goes to the files of a node, or only to the node itself. -/
theorem walk_eq
    (recursive : Bool)
    (p : Path)
    (t : FileTree) :
    walk recursive p t
      =
    (t.filePlaces.filter fun place => recursive || place.length == 0).map p.joinAll := by
  cases t with
  | file content =>
      simp [walk, filePlaces, Path.joinAll]
  | folder children =>
      rw [walk, filePlaces]
      cases recursive with
      | true =>
          rw [if_pos rfl, walkAll_eq]
          simp
      | false =>
          have hnone :
              (childPlaces children).filter (fun place => false || place.length == 0)
                = [] := by
            rw [List.filter_eq_nil_iff]
            intro place hplace
            obtain ⟨_, _, _, rfl⟩ := FileTree.exists_name_of_mem_childPlaces hplace
            simp
          rw [hnone]
          rfl

theorem walkAll_eq
    (recursive : Bool)
    (p : Path)
    (children : List (String × FileTree)) :
    walkAll recursive p children
      =
    ((childPlaces children).filter fun place => recursive || place.length == 1).map
      p.joinAll := by
  match children with
  | [] =>
      rfl
  | (name, node) :: rest =>
      rw [walkAll, childPlaces, walk_eq, walkAll_eq, List.filter_append, List.map_append,
        List.filter_map, List.map_map]
      congr 2
      simp [Function.comp_def]

end

/-- Putting files in order changes nothing if they are in order. -/
theorem inPathOrder_eq_self
    {files : List Path}
    (h : files.Pairwise fun a b => a.parts < b.parts) :
    inPathOrder files = files := by
  induction files with
  | nil =>
      rfl
  | cons p files ih =>
      obtain ⟨hfirst, hfiles⟩ := List.pairwise_cons.1 h
      rw [inPathOrder, ih hfiles]
      cases files with
      | nil =>
          rfl
      | cons q files =>
          rw [insertPath, if_neg]
          exact List.lt_asymm (hfirst q List.mem_cons_self)

/-- The walk through an ordered tree meets the files in the order of their paths. -/
theorem pairwise_walkAll
    {children : List (String × FileTree)}
    (h : OrderedChildren children)
    (recursive : Bool)
    (p : Path) :
    (walkAll recursive p children).Pairwise fun a b => a.parts < b.parts := by
  rw [walkAll_eq, List.pairwise_map]
  have hplaces := (h.pairwise_childPlaces children).filter
    fun place => recursive || place.length == 1
  refine hplaces.imp_of_mem ?_
  intro a b ha hb hlt
  have hnames := fun place (hplace : place ∈ childPlaces children) =>
    Path.parts_joinAll (p := p) (FileTree.isName_of_mem_childPlaces children h hplace)
  rw [hnames a (List.mem_filter.1 ha).1, hnames b (List.mem_filter.1 hb).1]
  exact List.append_left_lt hlt

theorem folder?_eq_some
    {root tree : FileTree} {p : Path}
    (h : folder? root p = some tree) :
    ∃ children, tree = .folder children ∧ root.get p = .ok (.folder children) := by
  unfold folder? at h
  split at h
  · next children hget =>
      cases h
      exact ⟨children, rfl, hget⟩
  · cases h

/--
The files of a directory.  In a tree that is in order, let a path lead to a folder.  The
places of its source files are those places below it, or right in it if the directories
below it are not searched, at which a file stands whose path is that of a candidate; by
its path each file can be read.  These paths ascend part by part, so each of them is there
once.  Without a limit exactly they are discovered, and with a limit of one at least, as
many of the first of them as it says; no file at all is an error.
-/
theorem discover_lists_first_files
    {root tree : FileTree} {p : Path}
    (hordered : root.Ordered)
    (hfolder : folder? root p = some tree)
    (config : BatchConfig)
    (scope : Scope) :
    ∃ places : List (List String),
      (∀ place,
        place ∈ places
          ↔
        (∃ content, tree.entryAt? place = some (.file content)) ∧
          (config.recursive = true ∨ place.length = 1) ∧
          isCandidate config.language (p.joinAll place) = true) ∧
      (∀ place content,
        tree.entryAt? place = some (.file content) →
        root.readBytes (p.joinAll place) = .ok content) ∧
      let files := places.map p.joinAll
      files.Pairwise (fun a b => a.parts < b.parts) ∧
      (discover { config with maxFiles := none } root p).value scope
        = (if files = [] then .error (.noSourceFiles p.text) else .ok files) ∧
      ∀ limit : Nat, 1 ≤ limit →
        (discover { config with maxFiles := some limit } root p).value scope
          = (if files = [] then .error (.noSourceFiles p.text)
             else .ok (files.take limit)) := by
  obtain ⟨children, rfl, hget⟩ := folder?_eq_some hfolder
  obtain ⟨top, hleads, hat⟩ := FileTree.exists_leadsTo_of_get hget
  have htree : OrderedChildren children := (hordered.of_at? hat).2
  let within :=
    (childPlaces children).filter fun place => config.recursive || place.length == 1
  let places := within.filter fun place => isCandidate config.language (p.joinAll place)
  have hwalk : walkAll config.recursive p children = within.map p.joinAll :=
    walkAll_eq _ p children
  have hfiles :
      (walkAll config.recursive p children).filter (isCandidate config.language)
        =
      places.map p.joinAll := by
    rw [hwalk, List.filter_map]
    rfl
  have hascend : (places.map p.joinAll).Pairwise fun a b => a.parts < b.parts := by
    rw [← hfiles]
    exact (pairwise_walkAll htree config.recursive p).filter _
  refine ⟨places, ?_, ?_, hascend, ?_, ?_⟩
  · intro place
    rw [List.mem_filter, List.mem_filter, FileTree.mem_childPlaces_iff children htree]
    simp [and_assoc]
  · intro place content hentry
    have hmem := (FileTree.mem_childPlaces_iff children htree place).2 ⟨content, hentry⟩
    have hnames := FileTree.isName_of_mem_childPlaces children htree hmem
    apply hleads.readBytes_joinAll hnames
    rwa [FileTree.entryAt?, FileTree.at?_append, hat]
  · rw [value_discover_of_folder hfolder]
    simp only [FileTree.children, gather_of_unlimited, hfiles, List.isEmpty_iff,
      inPathOrder_eq_self hascend]
  · intro limit hlimit
    have hfirst : ((places.map p.joinAll).take limit).Pairwise fun a b =>
        a.parts < b.parts :=
      hascend.sublist (List.take_sublist _ _)
    have hmax : max (limit - 0) 1 = limit := by
      omega
    have hnone : (places.map p.joinAll).take limit = [] ↔ places.map p.joinAll = [] := by
      rw [List.take_eq_nil_iff, or_iff_right (Nat.one_le_iff_ne_zero.1 hlimit)]
    rw [value_discover_of_folder hfolder]
    simp only [FileTree.children, gather_of_limit, hfiles, hmax, List.isEmpty_iff, hnone,
      inPathOrder_eq_self hfirst]

/-- Of a file in each of two folders the search with a limit of one finds the one in
`web`. -/
theorem discover_lists_web_first :
    let root : FileTree :=
      .folder [("notes", .file .empty), ("web", .folder [("a.c", .file .empty)]),
        ("web.old", .folder [("a.c", .file .empty)])]
    let config : BatchConfig := { threads := 1 }
    root.Ordered ∧
    folder? root ⟨"."⟩ = some root ∧
    (discover config root ⟨"."⟩).value ⟨.epoch, none⟩
      = .ok [⟨"./web/a.c"⟩, ⟨"./web.old/a.c"⟩] ∧
    1 ≤ 1 ∧
    (discover { config with maxFiles := some 1 } root ⟨"."⟩).value ⟨.epoch, none⟩
      = .ok [⟨"./web/a.c"⟩] := by
  intro root config
  have hordered : root.Ordered := by
    decide
  have hall :
      (discover config root ⟨"."⟩).value ⟨.epoch, none⟩
        =
      .ok [⟨"./web/a.c"⟩, ⟨"./web.old/a.c"⟩] := by
    decide +kernel
  have hfolder : folder? root ⟨"."⟩ = some root := by
    rfl
  obtain ⟨places, _, _, _, hfound, hlimit⟩ :=
    discover_lists_first_files hordered hfolder config ⟨.epoch, none⟩
  have hfiles : places.map (Path.joinAll ⟨"."⟩) = [⟨"./web/a.c"⟩, ⟨"./web.old/a.c"⟩] := by
    change (discover config root ⟨"."⟩).value ⟨.epoch, none⟩ = _ at hfound
    rw [hall] at hfound
    split at hfound
    · cases hfound
    · exact (Except.ok.inj hfound).symm
  refine ⟨hordered, hfolder, hall, Nat.le_refl 1, ?_⟩
  rw [hlimit 1 (Nat.le_refl 1), hfiles]
  rfl

end Discovery
end TableLexer
