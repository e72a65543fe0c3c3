import TableLexer.Proofs.Files.Places

/-!
# File trees in order

A system shows the children of a folder under names that can name a file, each name once,
and a search takes them in the order of the names.  A tree is `FileTree.Ordered` if it is
kept that way in all its folders.  New files keep it so (`Ordered.write`,
`Ordered.create`), because a path ends in a name and all other names on the way are there.

Going through such a tree depth first meets every file once (`mem_filePlaces_iff`), and in
the order of the places name by name (`pairwise_filePlaces`): what is below a child stands
in front of all that is below the later ones, since its first name is smaller.
-/

namespace TableLexer

namespace Path

instance decidableIsName (name : String) : Decidable (IsName name) :=
  decidable_of_iff
    (name ≠ "" ∧ name ≠ "." ∧ name ≠ ".." ∧ '/' ∉ name.toList ∧ '\x00' ∉ name.toList)
    ⟨fun ⟨hempty, hdot, hup, hslash, hnul⟩ => ⟨hempty, hdot, hup, hslash, hnul⟩,
      fun h => ⟨h.ne_empty, h.ne_dot, h.ne_up, h.no_slash, h.no_nul⟩⟩

/-- A piece goes on with characters of the text up to the next slash. -/
theorem mem_of_mem_piecesFrom
    {current cs : List Char} {piece : String} {c : Char}
    (hpiece : piece ∈ piecesFrom current cs)
    (hc : c ∈ piece.toList) :
    c ∈ current ∨ (c ∈ cs ∧ c ≠ '/') := by
  induction cs generalizing current with
  | nil =>
      rw [piecesFrom, List.mem_singleton] at hpiece
      subst hpiece
      simpa using hc
  | cons d cs ih =>
      rw [piecesFrom] at hpiece
      split at hpiece
      · rcases List.mem_cons.1 hpiece with rfl | hpiece
        · exact Or.inl (by simpa using hc)
        · rcases ih hpiece with hcurrent | ⟨hcs, hslash⟩
          · cases hcurrent
          · exact Or.inr ⟨List.mem_cons_of_mem d hcs, hslash⟩
      · next hd =>
          rcases ih hpiece with hcurrent | ⟨hcs, hslash⟩
          · rcases List.mem_cons.1 hcurrent with rfl | hcurrent
            · exact Or.inr ⟨List.mem_cons_self, hd⟩
            · exact Or.inl hcurrent
          · exact Or.inr ⟨List.mem_cons_of_mem d hcs, hslash⟩

/-- What a path ends in is the name of a file, unless a character forbids it. -/
theorem isName_of_finalName?
    {p : Path} {name : String}
    (hnul : p.hasNul = false)
    (h : p.finalName? = some name) :
    IsName name := by
  have hlast :
      (p.pieces.filter (· != "")).getLast? = some name ∧ name ≠ "." ∧ name ≠ ".." := by
    unfold finalName? at h
    split at h
    · cases h
    · cases h
    · next hdot hup =>
        refine ⟨h, ?_, ?_⟩
        · rintro rfl
          exact hdot h
        · rintro rfl
          exact hup h
  obtain ⟨hlast, hdot, hup⟩ := hlast
  obtain ⟨hpiece, hempty⟩ := List.mem_filter.1 (List.mem_of_getLast? hlast)
  have hchars : ∀ c ∈ name.toList, c ∈ p.text.toList ∧ c ≠ '/' := by
    intro c hc
    exact (mem_of_mem_piecesFrom hpiece hc).resolve_left List.not_mem_nil
  refine ⟨by simpa using hempty, hdot, hup, ?_, ?_⟩
  · intro hslash
    exact (hchars '/' hslash).2 rfl
  · intro hzero
    rw [hasNul, ← Bool.not_eq_true, List.contains_iff_mem] at hnul
    exact hnul (hchars '\x00' hzero).1

end Path

namespace FileTree

mutual

/-- In every folder the children stand in the order of their names. -/
def Ordered : FileTree → Prop
  | file _ => True
  | folder children => OrderedChildren children

/-- The names are those of files, each one comes before the names behind it, and below the
children it is so too. -/
def OrderedChildren : List (String × FileTree) → Prop
  | [] => True
  | (name, node) :: rest =>
    Path.IsName name ∧
    (∀ child ∈ rest, name < child.1) ∧
    node.Ordered ∧
    OrderedChildren rest

end

mutual

/-- Whether a tree is in order can be told by going through it. -/
def decideOrdered : (t : FileTree) → Decidable t.Ordered
  | file _ => isTrue trivial
  | folder children => decideOrderedChildren children

def decideOrderedChildren :
    (children : List (String × FileTree)) → Decidable (OrderedChildren children)
  | [] => isTrue trivial
  | (_, node) :: rest =>
    have := decideOrdered node
    have := decideOrderedChildren rest
    inferInstanceAs (Decidable (_ ∧ _ ∧ _ ∧ _))

end

instance : DecidablePred Ordered :=
  decideOrdered

variable {t : FileTree} {children : List (String × FileTree)}
variable {name : String} {place : List String}

/-- What has a name in an ordered folder is ordered, and the name is one. -/
theorem OrderedChildren.of_lookup
    (h : OrderedChildren children)
    (hlookup : children.lookup name = some t) :
    Path.IsName name ∧ t.Ordered := by
  induction children with
  | nil =>
      cases hlookup
  | cons child rest ih =>
      obtain ⟨n, node⟩ := child
      obtain ⟨hname, _, hnode, hrest⟩ := h
      rw [lookup_cons_eq] at hlookup
      split at hlookup
      · next heq =>
          cases hlookup
          exact ⟨heq ▸ hname, hnode⟩
      · exact ih hrest hlookup

theorem Ordered.of_at?
    {root : FileTree}
    (h : root.Ordered)
    (hat : root.at? place = some t) :
    (∀ name ∈ place, Path.IsName name) ∧ t.Ordered := by
  induction place generalizing root with
  | nil =>
      cases hat
      exact ⟨by simp, h⟩
  | cons name place ih =>
      rw [at?] at hat
      cases root with
      | file content =>
          cases hat
      | folder children =>
          rw [child?, FileTree.children] at hat
          split at hat
          · next node hnode =>
              obtain ⟨hname, hordered⟩ := OrderedChildren.of_lookup h hnode
              obtain ⟨hnames, ht⟩ := ih hordered hat
              exact ⟨List.forall_mem_cons.2 ⟨hname, hnames⟩, ht⟩
          · cases hat

/-! ## New nodes -/

theorem mem_insertChild
    {child : String × FileTree}
    (h : child ∈ insertChild name t children) :
    child.1 = name ∨ child ∈ children := by
  induction children with
  | nil =>
      rw [insertChild, List.mem_singleton] at h
      exact Or.inl (by rw [h])
  | cons first rest ih =>
      obtain ⟨n, node⟩ := first
      rw [insertChild] at h
      split at h
      · exact (List.mem_cons.1 h).imp (by rintro rfl; rfl) (List.mem_cons_of_mem _)
      · split at h
        · exact (List.mem_cons.1 h).imp_left (by rintro rfl; rfl)
        · rcases List.mem_cons.1 h with rfl | h
          · exact Or.inr List.mem_cons_self
          · exact (ih h).imp_right (List.mem_cons_of_mem _)

theorem OrderedChildren.insertChild
    (h : OrderedChildren children)
    (hname : Path.IsName name)
    (ht : t.Ordered) :
    OrderedChildren (insertChild name t children) := by
  induction children with
  | nil =>
      exact ⟨hname, by simp, ht, trivial⟩
  | cons first rest ih =>
      obtain ⟨n, node⟩ := first
      obtain ⟨hn, hfirst, hnode, hrest⟩ := h
      rw [FileTree.insertChild]
      split
      · next heq =>
          subst heq
          exact ⟨hname, hfirst, ht, hrest⟩
      · next hne =>
          split
          · next hlt =>
              refine ⟨hname, ?_, ht, hn, hfirst, hnode, hrest⟩
              intro child hchild
              rcases List.mem_cons.1 hchild with rfl | hchild
              · exact hlt
              · exact String.lt_trans hlt (hfirst child hchild)
          · next hnlt =>
              refine ⟨hn, ?_, hnode, ih hrest⟩
              intro child hchild
              rcases mem_insertChild hchild with heq | hchild
              · rw [heq]
                exact Std.lt_of_le_of_ne (String.not_lt.1 hnlt) (Ne.symm hne)
              · exact hfirst child hchild

/-- A node put behind names keeps the order. -/
theorem Ordered.put
    {root : FileTree}
    (h : root.Ordered)
    (hplace : ∀ name ∈ place, Path.IsName name)
    (ht : t.Ordered) :
    (put t place root).Ordered := by
  induction place generalizing root with
  | nil =>
      exact ht
  | cons name place ih =>
      obtain ⟨hname, hplace⟩ := List.forall_mem_cons.1 hplace
      have hchildren : OrderedChildren root.children := by
        cases root with
        | file content =>
            exact trivial
        | folder children =>
            exact h
      have hbelow : ((root.child? name).getD empty).Ordered := by
        cases hchild : root.child? name with
        | none =>
            exact trivial
        | some node =>
            exact (hchildren.of_lookup hchild).2
      exact hchildren.insertChild hname (ih hbelow hplace)

/-- The place at which a path that is written ends is told by names. -/
theorem Ordered.isName_of_target
    {root : FileTree} {p : Path}
    (h : root.Ordered)
    (htarget : root.target p = .ok (some place)) :
    ∀ name ∈ place, Path.IsName name := by
  unfold target at htarget
  split at htarget
  · split at htarget <;> cases htarget
  · next name hname =>
      split at htarget
      · cases htarget
      · next hnul =>
          split at htarget
          · cases htarget
          · next front _ =>
              split at htarget
              · next children hat =>
                  split at htarget
                  · cases htarget
                  · cases htarget
                    intro n hn
                    rcases List.mem_append.1 hn with hn | hn
                    · exact (h.of_at? hat).1 n hn
                    · rw [List.mem_singleton.1 hn]
                      exact Path.isName_of_finalName? (by simpa using hnul) hname
              · cases htarget
              · cases htarget

/-- Writing a file keeps the order. -/
theorem Ordered.write
    {root root' : FileTree} {p : Path} {content : ByteArray}
    (h : root.Ordered)
    (hwrite : root.write p content = .ok root') :
    root'.Ordered := by
  unfold FileTree.write at hwrite
  split at hwrite
  · cases hwrite
  · cases hwrite
  · next htarget =>
      split at hwrite
      · cases hwrite
      · cases hwrite
        exact h.put (h.isName_of_target htarget) trivial

/-- Creating a file keeps the order. -/
theorem Ordered.create
    {root root' : FileTree} {p : Path} {content : ByteArray}
    (h : root.Ordered)
    (hcreate : root.create p content = .ok root') :
    root'.Ordered := by
  unfold FileTree.create at hcreate
  split at hcreate
  · cases hcreate
  · cases hcreate
  · next htarget =>
      split at hcreate
      · cases hcreate
      · cases hcreate
        exact h.put (h.isName_of_target htarget) trivial

/-! ## Going through a tree -/

/-- A place below the children begins with the name of one of them. -/
theorem exists_name_of_mem_childPlaces
    (h : place ∈ childPlaces children) :
    ∃ child ∈ children, ∃ below, place = child.1 :: below := by
  induction children with
  | nil =>
      cases h
  | cons child rest ih =>
      obtain ⟨n, node⟩ := child
      rw [childPlaces, List.mem_append, List.mem_map] at h
      rcases h with ⟨below, _, rfl⟩ | h
      · exact ⟨(n, node), List.mem_cons_self, below, rfl⟩
      · obtain ⟨child, hchild, below, rfl⟩ := ih h
        exact ⟨child, List.mem_cons_of_mem _ hchild, below, rfl⟩

mutual

/-- The places of an ordered tree are those at which a file stands. -/
theorem mem_filePlaces_iff
    (t : FileTree)
    (h : t.Ordered)
    (place : List String) :
    place ∈ t.filePlaces ↔ ∃ content, t.entryAt? place = some (.file content) := by
  cases t with
  | file bytes =>
      cases place with
      | nil =>
          simp [filePlaces, entry]
      | cons name place =>
          simp [filePlaces, entryAt?_cons, child?, FileTree.children]
  | folder children =>
      exact mem_childPlaces_iff children h place

theorem mem_childPlaces_iff
    (children : List (String × FileTree))
    (h : OrderedChildren children)
    (place : List String) :
    place ∈ childPlaces children
      ↔
    ∃ content, (folder children).entryAt? place = some (.file content) := by
  match children, h with
  | [], _ =>
      cases place with
      | nil =>
          simp [childPlaces, entry]
      | cons name place =>
          simp [childPlaces, entryAt?_cons, child?, FileTree.children]
  | (n, node) :: rest, ⟨_, hfirst, hnode, hrest⟩ =>
      have hbelow := mem_filePlaces_iff node hnode
      have hlater := mem_childPlaces_iff rest hrest
      cases place with
      | nil =>
          have hnot : [] ∉ childPlaces ((n, node) :: rest) := by
            intro hmem
            obtain ⟨_, _, _, heq⟩ := exists_name_of_mem_childPlaces hmem
            cases heq
          simp [hnot, entry]
      | cons name place =>
          rw [entryAt?_cons, child?, FileTree.children, lookup_cons_eq, childPlaces,
            List.mem_append, List.mem_map]
          by_cases hname : name = n
          · subst hname
            have hnot : name :: place ∉ childPlaces rest := by
              intro hmem
              obtain ⟨child, hchild, _, heq⟩ := exists_name_of_mem_childPlaces hmem
              cases heq
              exact String.lt_irrefl _ (hfirst child hchild)
            simp [hnot, hbelow]
          · have hnot : ¬ ∃ below ∈ node.filePlaces, n :: below = name :: place := by
              rintro ⟨_, _, heq⟩
              cases heq
              exact hname rfl
            rw [if_neg hname, or_iff_right hnot, hlater, entryAt?_cons]
            rfl

end

mutual

/-- On the way to a file of an ordered tree stand names of files. -/
theorem isName_of_mem_filePlaces
    (t : FileTree)
    (h : t.Ordered)
    {place : List String}
    (hplace : place ∈ t.filePlaces) :
    ∀ name ∈ place, Path.IsName name := by
  cases t with
  | file bytes =>
      rw [filePlaces, List.mem_singleton] at hplace
      simp [hplace]
  | folder children =>
      exact isName_of_mem_childPlaces children h hplace

theorem isName_of_mem_childPlaces
    (children : List (String × FileTree))
    (h : OrderedChildren children)
    {place : List String}
    (hplace : place ∈ childPlaces children) :
    ∀ name ∈ place, Path.IsName name := by
  match children, h with
  | [], _ =>
      cases hplace
  | (n, node) :: rest, ⟨hname, _, hnode, hrest⟩ =>
      rw [childPlaces, List.mem_append, List.mem_map] at hplace
      rcases hplace with ⟨below, hbelow, rfl⟩ | hplace
      · exact List.forall_mem_cons.2 ⟨hname, isName_of_mem_filePlaces node hnode hbelow⟩
      · exact isName_of_mem_childPlaces rest hrest hplace

end

mutual

/-- The places of an ordered tree ascend. -/
theorem Ordered.pairwise_filePlaces
    (t : FileTree)
    (h : t.Ordered) :
    t.filePlaces.Pairwise (· < ·) := by
  cases t with
  | file bytes =>
      exact List.pairwise_singleton _ _
  | folder children =>
      exact OrderedChildren.pairwise_childPlaces children h

theorem OrderedChildren.pairwise_childPlaces
    (children : List (String × FileTree))
    (h : OrderedChildren children) :
    (childPlaces children).Pairwise (· < ·) := by
  match children, h with
  | [], _ =>
      exact List.Pairwise.nil
  | (n, node) :: rest, ⟨_, hfirst, hnode, hrest⟩ =>
      rw [childPlaces, List.pairwise_append, List.pairwise_map]
      refine ⟨?_, OrderedChildren.pairwise_childPlaces rest hrest, ?_⟩
      · exact (Ordered.pairwise_filePlaces node hnode).imp fun hlt =>
          List.cons_lt_cons_iff.2 (Or.inr ⟨rfl, hlt⟩)
      · intro a ha b hb
        obtain ⟨below, _, rfl⟩ := List.mem_map.1 ha
        obtain ⟨child, hchild, below', rfl⟩ := exists_name_of_mem_childPlaces hb
        exact List.cons_lt_cons_iff.2 (Or.inl (hfirst child hchild))

end

end FileTree
end TableLexer
