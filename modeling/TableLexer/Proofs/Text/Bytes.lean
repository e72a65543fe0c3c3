import Mathlib.Data.List.Induction
import TableLexer.Text.Bytes

/-!
# Bytes and beginnings

The bytes of a text are those of its characters (`byteCount_toList`).  The longest
beginning that stays within a number of bytes is one that every other such beginning is a
beginning of (`isPrefix_takeBytes`).

A place is a boundary if it is the number of bytes of a beginning (`isBoundary_iff`).  So
the last boundary at or in front of a place is the end of the longest beginning
(`boundaryAtMost?_eq_takeBytes`), which is what is left of a text that is cut there
(`cutAt?_takeBytes`).
-/

namespace TableLexer
namespace Text

theorem utf8ByteSize_ofList
    (cs : List Char) :
    (String.ofList cs).utf8ByteSize = byteCount cs := by
  induction cs using List.reverseRecOn with
  | nil =>
      rfl
  | append_singleton cs c ih =>
      have hpush : String.ofList (cs ++ [c]) = (String.ofList cs).push c := by
        apply String.toList_inj.1
        simp
      rw [hpush, String.utf8ByteSize_push, ih]
      simp

theorem byteCount_toList
    (s : String) :
    byteCount s.toList = s.utf8ByteSize := by
  rw [← utf8ByteSize_ofList, String.ofList_toList]

theorem byteCount_pos
    {cs : List Char}
    (h : cs ≠ []) :
    0 < byteCount cs := by
  cases cs with
  | nil =>
      exact absurd rfl h
  | cons c cs =>
      have hpos := c.utf8Size_pos
      rw [byteCount_cons]
      omega

/-! ## The longest beginning -/

theorem takeBytes_isPrefix
    (limit : Nat)
    (cs : List Char) :
    takeBytes limit cs <+: cs := by
  induction cs generalizing limit with
  | nil =>
      exact List.prefix_rfl
  | cons c cs ih =>
      rw [takeBytes]
      split
      · exact List.cons_prefix_cons.2 ⟨rfl, ih (limit - c.utf8Size)⟩
      · exact List.nil_prefix

theorem byteCount_takeBytes_le
    (limit : Nat)
    (cs : List Char) :
    byteCount (takeBytes limit cs) ≤ limit := by
  induction cs generalizing limit with
  | nil =>
      exact Nat.zero_le _
  | cons c cs ih =>
      rw [takeBytes]
      split
      · have hrest := ih (limit - c.utf8Size)
        rw [byteCount_cons]
        omega
      · exact Nat.zero_le _

/-- A beginning that stays within the bytes is a beginning of the longest one. -/
theorem isPrefix_takeBytes
    {limit : Nat}
    {cs ds : List Char}
    (hbegins : ds <+: cs)
    (hbytes : byteCount ds ≤ limit) :
    ds <+: takeBytes limit cs := by
  induction ds generalizing limit cs with
  | nil =>
      exact List.nil_prefix
  | cons d ds ih =>
      cases cs with
      | nil =>
          cases List.prefix_nil.1 hbegins
      | cons c cs =>
          obtain ⟨rfl, htail⟩ := List.cons_prefix_cons.1 hbegins
          rw [byteCount_cons] at hbytes
          have hfits : d.utf8Size ≤ limit := by omega
          rw [takeBytes, if_pos hfits]
          exact List.cons_prefix_cons.2 ⟨rfl, ih htail (by omega)⟩

/-- A text that stays within the bytes is its own longest beginning. -/
theorem takeBytes_eq_self
    {limit : Nat}
    {cs : List Char}
    (hbytes : byteCount cs ≤ limit) :
    takeBytes limit cs = cs :=
  (takeBytes_isPrefix limit cs).eq_of_length_le
    (isPrefix_takeBytes List.prefix_rfl hbytes).length_le

/-- A beginning that has as many bytes as the text is the text. -/
theorem eq_of_isPrefix_of_byteCount_le
    {cs ds : List Char}
    (hbegins : ds <+: cs)
    (hbytes : byteCount cs ≤ byteCount ds) :
    ds = cs := by
  obtain ⟨rest, rfl⟩ := hbegins
  rw [byteCount_append] at hbytes
  have hrest : rest = [] := by
    by_contra hne
    have hpos := byteCount_pos hne
    omega
  rw [hrest, List.append_nil]

/-! ## Boundaries -/

theorem isBoundary_iff
    {s : String}
    {place : Nat} :
    isBoundary s place ↔ ∃ t : String, t.toList <+: s.toList ∧ t.utf8ByteSize = place := by
  rw [isBoundary, String.Pos.Raw.isValid_eq_true_iff,
    String.Pos.Raw.isValid_iff_exists_append]
  constructor
  · rintro ⟨t, rest, rfl, hplace⟩
    refine ⟨t, ?_, (congrArg String.Pos.Raw.byteIdx hplace).symm⟩
    rw [String.toList_append]
    exact List.prefix_append t.toList rest.toList
  · rintro ⟨t, ⟨rest, hrest⟩, rfl⟩
    refine ⟨t, String.ofList rest, ?_, rfl⟩
    apply String.toList_inj.1
    rw [String.toList_append, String.toList_ofList, hrest]

theorem isBoundary_takeBytes
    (limit : Nat)
    (s : String) :
    isBoundary s (byteCount (takeBytes limit s.toList)) := by
  refine isBoundary_iff.2 ⟨String.ofList (takeBytes limit s.toList), ?_,
    utf8ByteSize_ofList _⟩
  rw [String.toList_ofList]
  exact takeBytes_isPrefix limit s.toList

/-- The last boundary at or in front of a place is where the longest beginning ends. -/
theorem boundaryAtMost?_eq_takeBytes
    (s : String)
    (limit : Nat) :
    boundaryAtMost? s limit = some (byteCount (takeBytes limit s.toList)) := by
  obtain ⟨last, hlast, hle, hboundary, hmost⟩ := exists_boundaryAtMost? s limit
  obtain ⟨t, hbegins, rfl⟩ := isBoundary_iff.1 hboundary
  rw [← byteCount_toList] at hle hlast hmost
  have hmore : byteCount (takeBytes limit s.toList) ≤ byteCount t.toList :=
    hmost _ (byteCount_takeBytes_le limit s.toList) (isBoundary_takeBytes limit s)
  rw [hlast, eq_of_isPrefix_of_byteCount_le (isPrefix_takeBytes hbegins hle) hmore]

/-- A cut at a boundary leaves the beginning that ends there. -/
theorem exists_cutAt?
    {s : String}
    {place : Nat}
    (h : isBoundary s place) :
    ∃ t : String,
      cutAt? s place = some t ∧ t.toList <+: s.toList ∧ t.utf8ByteSize = place := by
  have hsplits := String.Pos.splits ⟨⟨place⟩, String.Pos.Raw.isValid_eq_true_iff.1 h⟩
  refine ⟨_, dif_pos h, ?_,
    (congrArg String.Pos.Raw.byteIdx hsplits.offset_eq_rawEndPos).symm⟩
  have hwhole := congrArg String.toList hsplits.eq_append
  rw [String.toList_append] at hwhole
  rw [hwhole]
  exact List.prefix_append _ _

theorem cutAt?_takeBytes
    (s : String)
    (limit : Nat) :
    cutAt? s (byteCount (takeBytes limit s.toList))
      =
    some (String.ofList (takeBytes limit s.toList)) := by
  obtain ⟨t, hcut, hbegins, hbytes⟩ := exists_cutAt? (isBoundary_takeBytes limit s)
  rw [← byteCount_toList] at hbytes
  have hwithin : byteCount t.toList ≤ limit := by
    rw [hbytes]
    exact byteCount_takeBytes_le limit s.toList
  have hlist : t.toList = takeBytes limit s.toList :=
    eq_of_isPrefix_of_byteCount_le (isPrefix_takeBytes hbegins hwithin)
      (Nat.le_of_eq hbytes.symm)
  rw [hcut, ← hlist, String.ofList_toList]

end Text
end TableLexer
