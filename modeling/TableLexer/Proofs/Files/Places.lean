import Mathlib.Data.List.Nodup
import Mathlib.Data.List.Perm.Subperm
import TableLexer.Files.Tree

/-!
# Places in a file tree

A tree is seen through its places: at the end of a list of names stands a folder, or a
file with its bytes, or nothing (`FileTree.entryAt?`).  A new file changes the entry of one
place and no other (`FileTree.entryAt?_put`).

Following a path asks for entries only, and it asks for entries that are there.  So a
path leads to the same place in every tree that keeps the entries (`FileTree.follow_mono`);
what a name inside a folder is created as and read as is told by its entry
(`FileTree.create_join`, `FileTree.readBytes_join`).
-/

namespace TableLexer

namespace Path

/-- The path, with a dot for the empty path, which puts names into the root. -/
def orDot (p : Path) : Path :=
  if p.text.isEmpty then ⟨"."⟩ else p

/-- The dot leads where the empty path puts names. -/
theorem orDot_spec
    (p : Path) :
    p.orDot.hasNul = p.hasNul ∧ p.orDot.parts = p.parts ∧
      p.orDot.text.isEmpty = false := by
  unfold orDot
  split
  · next hempty =>
      obtain ⟨text⟩ := p
      have htext : text = "" := by simpa using hempty
      subst htext
      decide
  · next hempty =>
      exact ⟨rfl, rfl, by simpa using hempty⟩

theorem piecesFrom_append_slash
    (current cs ds : List Char) :
    piecesFrom current (cs ++ '/' :: ds) = piecesFrom current cs ++ piecesFrom [] ds := by
  induction cs generalizing current with
  | nil =>
      simp [piecesFrom]
  | cons c cs ih =>
      by_cases hc : c = '/' <;> simp [piecesFrom, hc, ih]

theorem piecesFrom_of_not_mem
    {current cs : List Char}
    (h : '/' ∉ cs) :
    piecesFrom current cs = [String.ofList (current.reverse ++ cs)] := by
  induction cs generalizing current with
  | nil =>
      simp [piecesFrom]
  | cons c cs ih =>
      rw [List.mem_cons, not_or] at h
      rw [piecesFrom, if_neg (Ne.symm h.1), ih h.2]
      simp

/-- A text that can be the name of a file. -/
structure IsName (name : String) : Prop where
  ne_empty : name ≠ ""
  ne_dot : name ≠ "."
  ne_up : name ≠ ".."
  no_slash : '/' ∉ name.toList
  no_nul : '\x00' ∉ name.toList

variable {p : Path} {name : String}

/-- A name put behind a path is its last piece; a slash at the end of the path is not
doubled. -/
theorem exists_pieces_join
    (hname : IsName name) :
    ∃ front,
      (p.join name).pieces = front ++ [name] ∧
      (p.pieces = front ∨ p.pieces = front ++ [""]) := by
  have hpiece : piecesFrom [] name.toList = [name] := by
    rw [piecesFrom_of_not_mem hname.no_slash]
    simp
  unfold join
  split
  · next hempty =>
      have htext : p.text = "" := by simpa using hempty
      refine ⟨[], by simp [pieces, hpiece], Or.inr ?_⟩
      rw [pieces, htext]
      rfl
  · split
    · next hslash =>
        obtain ⟨cs, hcs⟩ := List.getLast?_eq_some_iff.1 hslash
        refine ⟨piecesFrom [] cs, ?_, Or.inr ?_⟩
        · simp [pieces, hcs, piecesFrom_append_slash, hpiece]
        · simp [pieces, hcs, piecesFrom_append_slash, piecesFrom]
    · exact ⟨p.pieces, by simp [pieces, piecesFrom_append_slash, hpiece], Or.inl rfl⟩

theorem parts_join
    (hname : IsName name) :
    (p.join name).parts = p.parts ++ [name] := by
  obtain ⟨front, hjoin, hp⟩ := exists_pieces_join (p := p) hname
  have hkeep : (name != "" && name != ".") = true := by
    simp [hname.ne_empty, hname.ne_dot]
  unfold parts
  rcases hp with hp | hp <;> simp [hjoin, hp, hkeep]

theorem finalName?_join
    (hname : IsName name) :
    (p.join name).finalName? = some name := by
  obtain ⟨front, hjoin, _⟩ := exists_pieces_join (p := p) hname
  have hlast : ((p.join name).pieces.filter (· != "")).getLast? = some name := by
    simp [hjoin, hname.ne_empty]
  unfold finalName?
  rw [hlast]
  split
  · next h => exact absurd (Option.some.inj h) hname.ne_dot
  · next h => exact absurd (Option.some.inj h) hname.ne_up
  · rfl

theorem namesDirectory_join
    (hname : IsName name) :
    (p.join name).namesDirectory = false := by
  obtain ⟨front, hjoin, _⟩ := exists_pieces_join (p := p) hname
  simp [namesDirectory, hjoin, hname.ne_empty, hname.ne_dot]

/-- The text of a joined path ends in the name. -/
theorem exists_text_join
    (p : Path) (name : String) :
    ∃ front,
      (p.join name).text = front ++ name ∧
      (front = p.text ∨ front = p.text ++ "/") := by
  unfold join
  split
  · next hempty =>
      have htext : p.text = "" := by simpa using hempty
      exact ⟨"", by simp, Or.inl htext.symm⟩
  · split
    · exact ⟨p.text, rfl, Or.inl rfl⟩
    · exact ⟨p.text ++ "/", rfl, Or.inr rfl⟩

theorem endsInSlash_join
    (hname : IsName name) :
    (p.join name).endsInSlash = false := by
  obtain ⟨front, htext, _⟩ := exists_text_join p name
  have hne : name.toList ≠ [] := by simpa using hname.ne_empty
  have hlast : name.toList.getLast hne ≠ '/' := by
    intro h
    exact hname.no_slash (h ▸ List.getLast_mem hne)
  simp [endsInSlash, htext, List.getLast?_append, List.getLast?_eq_some_getLast hne, hlast]

theorem hasNul_join
    (hname : IsName name) :
    (p.join name).hasNul = p.hasNul := by
  obtain ⟨front, htext, hfront⟩ := exists_text_join p name
  have hname' := hname.no_nul
  rcases hfront with rfl | rfl <;> simp [hasNul, htext, hname']

theorem join_inj
    {name' : String}
    (h : p.join name = p.join name') :
    name = name' := by
  unfold join at h
  split at h
  · simpa using h
  · split at h <;> simpa using h

end Path

namespace FileTree

/-- What stands at a place. -/
inductive Entry where
  | folder
  | file (content : ByteArray)

/-- The node without what is below it. -/
def entry : FileTree → Entry
  | folder _ => .folder
  | file content => .file content

/-- What stands at the end of a list of names. -/
def entryAt? (root : FileTree) (place : List String) : Option Entry :=
  (root.at? place).map entry

variable {root root' : FileTree} {place names : List String} {name : String}

@[simp] theorem entryAt?_nil
    (root : FileTree) :
    root.entryAt? [] = some root.entry := by
  rfl

theorem entryAt?_cons
    (root : FileTree) (name : String) (names : List String) :
    root.entryAt? (name :: names) = (root.child? name).bind (·.entryAt? names) := by
  unfold entryAt?
  rw [at?]
  cases root.child? name <;> rfl

theorem at?_append
    (root : FileTree) (xs ys : List String) :
    root.at? (xs ++ ys) = (root.at? xs).bind (·.at? ys) := by
  induction xs generalizing root with
  | nil =>
      rfl
  | cons x xs ih =>
      rw [List.cons_append, at?, at?]
      cases root.child? x with
      | none =>
          rfl
      | some t =>
          exact ih t

/-- An entry in a folder is there if the folder has a child of the name. -/
theorem entryAt?_concat_isSome
    {children : List (String × FileTree)}
    (h : root.at? place = some (folder children)) :
    (root.entryAt? (place ++ [name])).isSome = (children.lookup name).isSome := by
  rw [entryAt?, at?_append, h, Option.bind_some, at?, child?, FileTree.children]
  cases children.lookup name <;> rfl

theorem exists_children
    (h : root.entryAt? place = some .folder) :
    ∃ children, root.at? place = some (folder children) := by
  obtain ⟨t, ht, hentry⟩ := Option.map_eq_some_iff.1 h
  cases t with
  | folder children =>
      exact ⟨children, ht⟩
  | file content =>
      cases hentry

/-- Of more names than a folder has children, one is free. -/
theorem exists_free
    {children : List (String × FileTree)}
    (h : root.at? place = some (folder children))
    {nameOf : Nat → String}
    (hinj : Function.Injective nameOf) :
    ∃ n ≤ children.length, root.entryAt? (place ++ [nameOf n]) = none := by
  by_contra hall
  push Not at hall
  let first := (List.range (children.length + 1)).map nameOf
  have hnodup : first.Nodup := List.nodup_range.map hinj
  have hsub : first ⊆ children.map Prod.fst := by
    intro name hname
    obtain ⟨n, hn, rfl⟩ := List.mem_map.1 hname
    have hentry := hall n (Nat.le_of_lt_succ (List.mem_range.1 hn))
    rw [← Option.isSome_iff_ne_none, entryAt?_concat_isSome h,
      List.lookup_isSome_iff] at hentry
    obtain ⟨child, hchild, heq⟩ := hentry
    exact List.mem_map.2 ⟨child, hchild, (eq_of_beq heq).symm⟩
  have hlength := (hnodup.subperm hsub).length_le
  rw [List.length_map, List.length_map, List.length_range] at hlength
  exact absurd hlength (Nat.not_succ_le_self _)

/-! ### A new file -/

theorem lookup_cons_eq
    (n : String) (c : FileTree)
    (children : List (String × FileTree))
    (m : String) :
    ((n, c) :: children).lookup m = if m = n then some c else children.lookup m := by
  rw [List.lookup_cons]
  by_cases hm : m = n
  · simp [hm]
  · have hbeq : (m == n) = false := by simpa using hm
    simp [hm, hbeq]

theorem lookup_insertChild
    (name : String) (node : FileTree)
    (children : List (String × FileTree))
    (m : String) :
    (insertChild name node children).lookup m
      =
    if m = name then some node else children.lookup m := by
  induction children with
  | nil =>
      rw [insertChild, lookup_cons_eq]
  | cons child children ih =>
      obtain ⟨n, c⟩ := child
      rw [insertChild]
      split
      · next hn =>
          subst hn
          rw [lookup_cons_eq, lookup_cons_eq]
          split <;> rfl
      · split
        · rw [lookup_cons_eq]
        · next hn _ =>
            rw [lookup_cons_eq, lookup_cons_eq, ih]
            by_cases hm : m = name
            · simp [hm, hn]
            · simp [hm]

/-- A node put further down changes the child on the way to it. -/
theorem child?_put
    (node root : FileTree)
    (n : String) (names : List String)
    (m : String) :
    (put node (n :: names) root).child? m
      =
    if m = n then some (put node names ((root.child? n).getD empty)) else root.child? m :=
  lookup_insertChild n _ root.children m

/-- A new file in a folder is the one entry that changes. -/
theorem entryAt?_put
    (content : ByteArray)
    (hfolder : root.entryAt? place = some .folder)
    (hfree : root.entryAt? (place ++ [name]) = none)
    (q : List String) :
    (put (file content) (place ++ [name]) root).entryAt? q
      =
    if q = place ++ [name] then some (.file content) else root.entryAt? q := by
  induction place generalizing root q with
  | nil =>
      cases q with
      | nil =>
          simpa [put, entry] using hfolder.symm
      | cons m q =>
          rw [List.nil_append, entryAt?_cons, entryAt?_cons, child?_put]
          by_cases hm : m = name
          · subst hm
            have hnone : root.child? m = none := by
              cases hchild : root.child? m with
              | none =>
                  rfl
              | some t =>
                  simp [entryAt?_cons, hchild] at hfree
            cases q with
            | nil =>
                simp [put, entry]
            | cons k q =>
                rw [if_pos rfl, hnone, Option.bind_some, put, entryAt?_cons]
                simp [child?, FileTree.children]
          · simp [hm]
  | cons n place ih =>
      rw [entryAt?_cons] at hfolder
      rw [List.cons_append, entryAt?_cons] at hfree
      obtain ⟨t, ht, hbelow⟩ := Option.bind_eq_some_iff.1 hfolder
      rw [ht, Option.bind_some] at hfree
      cases q with
      | nil =>
          cases root with
          | folder children =>
              simp [put, entry]
          | file bytes =>
              cases ht
      | cons m q =>
          rw [List.cons_append, entryAt?_cons, entryAt?_cons, child?_put]
          by_cases hm : m = n
          · subst hm
            rw [if_pos rfl, Option.bind_some, ht, Option.getD_some, Option.bind_some,
              ih hbelow hfree q]
            simp
          · simp [hm]

/-! ### Following a path -/

/-- Every entry of the tree is an entry of the other one. -/
def Keeps (root root' : FileTree) : Prop :=
  ∀ place e, root.entryAt? place = some e → root'.entryAt? place = some e

theorem Keeps.refl
    (root : FileTree) :
    Keeps root root :=
  fun _ _ h => h

theorem Keeps.trans
    {root'' : FileTree}
    (h : Keeps root root')
    (h' : Keeps root' root'') :
    Keeps root root'' :=
  fun place e he => h' place e (h place e he)

theorem follow_cons
    (root : FileTree) (place : List String) (name : String) (names : List String) :
    follow root place (name :: names)
      =
    match root.entryAt? place with
    | none => .error .notFound
    | some (.file _) => .error .notDirectory
    | some .folder =>
      if name = ".." then follow root place.dropLast names
      else if (root.entryAt? (place ++ [name])).isSome then
        follow root (place ++ [name]) names
      else .error .notFound := by
  rw [follow]
  cases hat : root.at? place with
  | none =>
      simp [entryAt?, hat]
  | some t =>
      cases t with
      | file content =>
          simp [entryAt?, hat, entry]
      | folder children =>
          rw [entryAt?_concat_isSome hat]
          simp [entryAt?, hat, entry]

/-- A path leads on where it led. -/
theorem follow_mono
    (h : Keeps root root')
    {reached : List String}
    (hfollow : follow root place names = .ok reached) :
    follow root' place names = .ok reached := by
  induction names generalizing place with
  | nil =>
      exact hfollow
  | cons name names ih =>
      rw [follow_cons] at hfollow ⊢
      cases hentry : root.entryAt? place with
      | none =>
          simp [hentry] at hfollow
      | some e =>
          cases e with
          | file content =>
              simp [hentry] at hfollow
          | folder =>
              rw [hentry] at hfollow
              rw [h _ _ hentry]
              simp only at hfollow ⊢
              split at hfollow
              · next hup =>
                  rw [if_pos hup]
                  exact ih hfollow
              · next hup =>
                  rw [if_neg hup]
                  split at hfollow
                  · next hchild =>
                      obtain ⟨e, he⟩ := Option.isSome_iff_exists.1 hchild
                      rw [h _ _ he]
                      exact ih hfollow
                  · cases hfollow

theorem follow_append
    {middle : List String}
    (h : follow root place names = .ok middle)
    (more : List String) :
    follow root place (names ++ more) = follow root middle more := by
  induction names generalizing place with
  | nil =>
      cases h
      rfl
  | cons name names ih =>
      rw [List.cons_append, follow_cons]
      rw [follow_cons] at h
      split at h
      · cases h
      · cases h
      · split at h
        · next hup =>
            rw [if_pos hup]
            exact ih h
        · next hup =>
            rw [if_neg hup]
            split at h
            · next hchild =>
                rw [if_pos hchild]
                exact ih h
            · cases h

theorem get_orDot_eq
    (root : FileTree) (p : Path) :
    root.get p.orDot
      =
    if p.hasNul then .error .nulInName
    else
      match follow root [] p.parts with
      | .error e => .error e
      | .ok place =>
        match root.at? place with
        | none => .error .notFound
        | some (file content) =>
          if p.orDot.namesDirectory then .error .notDirectory else .ok (file content)
        | some (folder children) => .ok (folder children) := by
  obtain ⟨hnul, hparts, htext⟩ := p.orDot_spec
  rw [get, hnul, hparts, htext]
  rfl

/-- The path leads to the folder at a place; the empty path to the root. -/
structure LeadsTo (root : FileTree) (p : Path) (place : List String) : Prop where
  no_nul : p.hasNul = false
  follow_eq : follow root [] p.parts = .ok place
  entry_eq : root.entryAt? place = some .folder

namespace LeadsTo

variable {p : Path}

theorem mono
    (h : root.LeadsTo p place)
    (hkeeps : Keeps root root') :
    root'.LeadsTo p place :=
  ⟨h.no_nul, follow_mono hkeeps h.follow_eq, hkeeps _ _ h.entry_eq⟩

/-- The path itself is looked up at the place. -/
theorem get_orDot
    (h : root.LeadsTo p place)
    {children : List (String × FileTree)}
    (hat : root.at? place = some (folder children)) :
    root.get p.orDot = .ok (folder children) := by
  simp [get_orDot_eq, h.no_nul, h.follow_eq, hat]

/-- A name in the folder is looked up at its place. -/
theorem follow_join
    (h : root.LeadsTo p place)
    (hname : Path.IsName name)
    {e : Entry}
    (he : root.entryAt? (place ++ [name]) = some e) :
    follow root [] (p.join name).parts = .ok (place ++ [name]) := by
  rw [Path.parts_join hname, follow_append h.follow_eq, follow_cons, h.entry_eq, he]
  simp [hname.ne_up, follow]

/-- A file in the folder is read at its place. -/
theorem readBytes_join
    (h : root.LeadsTo p place)
    (hname : Path.IsName name)
    {content : ByteArray}
    (he : root.entryAt? (place ++ [name]) = some (.file content)) :
    root.readBytes (p.join name) = .ok content := by
  obtain ⟨t, ht, hentry⟩ := Option.map_eq_some_iff.1 he
  have hnul : (p.join name).hasNul = false := (Path.hasNul_join hname).trans h.no_nul
  have htext : (p.join name).text ≠ "" := by
    obtain ⟨front, htext, _⟩ := Path.exists_text_join p name
    simp [htext, hname.ne_empty]
  cases t with
  | folder children =>
      cases hentry
  | file bytes =>
      cases hentry
      simp [readBytes, get, hnul, htext, h.follow_join hname he, ht,
        Path.namesDirectory_join hname]

theorem target_join
    (h : root.LeadsTo p place)
    (hname : Path.IsName name) :
    root.target (p.join name) = .ok (some (place ++ [name])) := by
  obtain ⟨children, hat⟩ := exists_children h.entry_eq
  have hnul : (p.join name).hasNul = false := (Path.hasNul_join hname).trans h.no_nul
  simp [target, Path.finalName?_join hname, Path.parts_join hname, hnul, h.follow_eq, hat,
    Path.endsInSlash_join hname]

/-- A name in the folder is taken if anything has it. -/
theorem create_join
    (h : root.LeadsTo p place)
    (hname : Path.IsName name)
    (content : ByteArray) :
    root.create (p.join name) content
      =
    if (root.entryAt? (place ++ [name])).isSome then .error .alreadyExists
    else .ok (put (file content) (place ++ [name]) root) := by
  rw [create, h.target_join hname]
  simp [entryAt?]

end LeadsTo

/-- The directories that are there are the paths that lead to a folder. -/
theorem hasFolder_orDot_iff
    (root : FileTree) (p : Path) :
    root.hasFolder p.orDot = true ↔ ∃ place, root.LeadsTo p place := by
  constructor
  · intro h
    unfold hasFolder at h
    rw [get_orDot_eq] at h
    cases hnul : p.hasNul with
    | true =>
        simp [hnul] at h
    | false =>
        cases hfollow : follow root [] p.parts with
        | error e =>
            simp [hnul, hfollow] at h
        | ok place =>
            cases hat : root.at? place with
            | none =>
                simp [hnul, hfollow, hat] at h
            | some t =>
                cases t with
                | folder children =>
                    exact ⟨place, hnul, hfollow, by simp [entryAt?, hat, entry]⟩
                | file content =>
                    cases hslash : p.orDot.namesDirectory <;>
                      simp [hnul, hfollow, hat, hslash, isFolder] at h
  · rintro ⟨place, h⟩
    obtain ⟨children, hat⟩ := exists_children h.entry_eq
    rw [hasFolder, h.get_orDot hat]
    rfl

end FileTree

end TableLexer
