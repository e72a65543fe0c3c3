import Mathlib.Data.List.Basic
import TableLexer.Text.Case

/-!
# Lower case and ASCII

The Unicode lower case of a text and its ASCII lower case differ in what they do to
characters beyond ASCII.  Two of these end in ASCII: the Kelvin sign becomes a `k`, and the
dotted capital `İ` an `i` with a dot above behind it.  All others stay beyond ASCII
(`lowerAt_of_foreign`), and ASCII letters are moved alike by both (`lowerAt_of_ascii`).

So a word without `k` and `i` comes out of the one exactly if it comes out of the other
(`asciiLower_lower_eq_iff`).  Of the case table only this is looked at: its first run is
that of the ASCII capitals, and the images of the others are characters beyond ASCII or
that `k`.
-/

namespace TableLexer
namespace Text

/-! ## The case table -/

/-- The members of the run are beyond ASCII, and so are its images, which are characters;
the run of the Kelvin sign, whose image is `k`, is an exception. -/
def CaseRun.isForeign (r : CaseRun) : Bool :=
  128 ≤ r.first &&
  ((128 ≤ r.first + r.shift && r.last + r.shift < 0xD800) ||
    (0xE000 ≤ r.first + r.shift && r.last + r.shift < 0x110000) ||
    (r.first == r.last && r.first + r.shift == 107))

/-- The run of the ASCII capitals. -/
def asciiRun : CaseRun := ⟨0x41, 0x5A, 1, 32⟩

/-- Behind the ASCII capitals the table has foreign runs only. -/
theorem exists_lowerRuns :
    ∃ runs, lowerRuns = asciiRun :: runs ∧ ∀ r ∈ runs, r.isForeign = true := by
  refine ⟨lowerRuns.tail, rfl, ?_⟩
  rw [← List.all_eq_true]
  decide

theorem image?_eq_some
    {r : CaseRun} {n m : Nat}
    (h : r.image? n = some m) :
    r.first ≤ n ∧ n ≤ r.last ∧ m = Int.toNat ((n : Int) + r.shift) := by
  unfold CaseRun.image? CaseRun.covers at h
  split at h
  · next hcovers =>
      simp only [Bool.and_eq_true, decide_eq_true_eq] at hcovers
      exact ⟨hcovers.1.1, hcovers.1.2, (Option.some.inj h).symm⟩
  · cases h

theorem image?_of_foreign
    {r : CaseRun} {n m : Nat}
    (hforeign : r.isForeign = true)
    (h : r.image? n = some m) :
    128 ≤ n ∧ (m = 107 ∨ (128 ≤ m ∧ m.isValidChar)) := by
  obtain ⟨hfirst, hlast, rfl⟩ := image?_eq_some h
  simp only [CaseRun.isForeign, Bool.and_eq_true, Bool.or_eq_true, decide_eq_true_eq,
    beq_iff_eq] at hforeign
  refine ⟨by omega, ?_⟩
  rcases hforeign.2 with (hlow | hhigh) | hkelvin
  · right
    exact ⟨by omega, Or.inl (by omega)⟩
  · right
    exact ⟨by omega, Or.inr (by omega)⟩
  · left
    omega

/-! ## Single characters -/

/-- Only ASCII characters have this one in their lower case. -/
def isOwnLower (c : Char) : Bool :=
  c.toNat < 128 && c != 'k' && c != 'i'

theorem not_isOwnLower_of_le
    {c : Char}
    (h : 128 ≤ c.toNat) :
    isOwnLower c = false := by
  simp [isOwnLower, Nat.not_lt.2 h]

theorem toLower_of_le
    {c : Char}
    (h : 128 ≤ c.toNat) :
    c.toLower = c := by
  have hval : c.toNat = c.val.toNat := rfl
  refine dif_neg ?_
  simp [UInt32.le_iff_toNat_le]
  omega

theorem not_isOwnLower_toLower
    {c : Char}
    (h : isOwnLower c = false) :
    isOwnLower c.toLower = false := by
  by_cases hascii : 128 ≤ c.toNat
  · rwa [toLower_of_le hascii]
  · have hletter : c = 'k' ∨ c = 'i' := by
      simpa [isOwnLower, Nat.not_le.1 hascii, or_iff_not_imp_left] using h
    rcases hletter with rfl | rfl <;> rfl

theorem toNat_ofNat
    {n : Nat}
    (h : n.isValidChar) :
    (Char.ofNat n).toNat = n := by
  rw [Char.ofNat, dif_pos h]
  rfl

/-- What holds of the first 128 characters holds of every ASCII character. -/
theorem of_ascii
    {P : Char → Prop}
    (h : ∀ n < 128, P (Char.ofNat n))
    {c : Char}
    (hc : c.toNat < 128) :
    P c := by
  have hchar := h c.toNat hc
  rwa [Char.ofNat_toNat] at hchar

theorem mapCase_of_ascii
    {c : Char}
    (h : c.toNat < 128) :
    mapCase lowerRuns c = c.toLower := by
  obtain ⟨runs, hruns, hforeign⟩ := exists_lowerRuns
  have hbeyond : runs.findSome? (fun r => r.image? c.toNat) = none := by
    rw [List.findSome?_eq_none_iff]
    intro r hr
    rw [Option.eq_none_iff_forall_ne_some]
    intro m hm
    have hlarge := (image?_of_foreign (hforeign r hr) hm).1
    omega
  have hcapital : mapCase [asciiRun] c = c.toLower :=
    of_ascii (P := fun c => mapCase [asciiRun] c = c.toLower) (by decide) h
  rw [← hcapital, hruns]
  simp only [mapCase, List.findSome?_cons, List.findSome?_nil, hbeyond]

/-- An ASCII character is moved as by the ASCII lower case, whatever stands around it. -/
theorem lowerAt_of_ascii
    {c : Char}
    (h : c.toNat < 128)
    (before after : List Char) :
    lowerAt before c after = [c.toLower] := by
  have hsigma : c ≠ 'Σ' := by
    rintro rfl
    exact absurd h (by decide)
  have hdotted : c ≠ 'İ' := by
    rintro rfl
    exact absurd h (by decide)
  rw [lowerAt, if_neg hsigma, if_neg hdotted, mapCase_of_ascii h]

/-- The lower case of a character beyond ASCII is beyond ASCII, or it begins with `k` or
`i`. -/
theorem lowerAt_of_foreign
    {c : Char}
    (h : 128 ≤ c.toNat)
    (before after : List Char) :
    ∃ d ∈ lowerAt before c after, isOwnLower d = false := by
  unfold lowerAt
  split
  · split
    · exact ⟨'ς', List.mem_cons_self, rfl⟩
    · exact ⟨'σ', List.mem_cons_self, rfl⟩
  · split
    · exact ⟨'i', List.mem_cons_self, rfl⟩
    · refine ⟨_, List.mem_cons_self, ?_⟩
      unfold mapCase
      split
      · next m hm =>
          obtain ⟨runs, hruns, hforeign⟩ := exists_lowerRuns
          rw [hruns] at hm
          obtain ⟨r, hr, himage⟩ := List.exists_of_findSome?_eq_some hm
          rcases List.mem_cons.1 hr with rfl | hr
          · have hlast := (image?_eq_some himage).2.1
            exact absurd (Nat.le_trans h hlast) (by decide)
          · rcases (image?_of_foreign (hforeign r hr) himage).2 with rfl | ⟨hlarge, hvalid⟩
            · rfl
            · exact not_isOwnLower_of_le (by rwa [toNat_ofNat hvalid])
      · exact not_isOwnLower_of_le h

/-! ## Texts -/

theorem lowerFrom_of_ascii
    {cs : List Char}
    (h : ∀ c ∈ cs, c.toNat < 128)
    (before : List Char) :
    lowerFrom before cs = cs.map Char.toLower := by
  induction cs generalizing before with
  | nil =>
      rfl
  | cons c cs ih =>
      rw [lowerFrom, lowerAt_of_ascii (h c List.mem_cons_self),
        ih fun d hd => h d (List.mem_cons_of_mem c hd)]
      rfl

theorem exists_mem_lowerFrom
    {cs : List Char} {c : Char}
    (hc : c ∈ cs)
    (h : 128 ≤ c.toNat)
    (before : List Char) :
    ∃ d ∈ lowerFrom before cs, isOwnLower d = false := by
  induction cs generalizing before with
  | nil =>
      cases hc
  | cons b cs ih =>
      rw [lowerFrom]
      rcases List.mem_cons.1 hc with rfl | hc
      · obtain ⟨d, hd, hown⟩ := lowerAt_of_foreign h before cs
        exact ⟨d, List.mem_append_left _ hd, hown⟩
      · obtain ⟨d, hd, hown⟩ := ih hc (b :: before)
        exact ⟨d, List.mem_append_right _ hd, hown⟩

theorem asciiLower_eq_self
    {s : String}
    (h : s.toList.map Char.toLower = s.toList) :
    asciiLower s = s := by
  rw [← String.toList_inj, asciiLower, String.toList_map, h]

/-- The characters of the word all come from ASCII characters alone. -/
def isOwnWord (w : String) : Bool :=
  w.toList.all isOwnLower

theorem isOwnLower_toLower_of_mem
    {s w : String}
    (hw : isOwnWord w = true)
    (h : asciiLower s = w)
    {c : Char}
    (hc : c ∈ s.toList) :
    isOwnLower c.toLower = true := by
  refine List.all_eq_true.1 hw _ ?_
  rw [← h, asciiLower, String.toList_map]
  exact List.mem_map_of_mem hc

/-- The ASCII lower case of an ASCII text is its lower case, and has nothing left to
move. -/
theorem asciiLower_lower_of_ascii
    {s : String}
    (h : ∀ c ∈ s.toList, c.toNat < 128) :
    asciiLower (lower s) = asciiLower s := by
  rw [← String.toList_inj, asciiLower, asciiLower, lower, lowerFrom_of_ascii h,
    String.toList_map, String.toList_ofList, String.toList_map, List.map_map]
  refine List.map_congr_left ?_
  intro c hc
  exact of_ascii (P := fun c => c.toLower.toLower = c.toLower) (by decide) (h c hc)

/-- A word of such characters comes out of a text in ASCII lower case exactly if it does
when the text goes through the Unicode lower case first. -/
theorem asciiLower_lower_eq_iff
    {s w : String}
    (hw : isOwnWord w = true) :
    asciiLower (lower s) = w ↔ asciiLower s = w := by
  by_cases hascii : ∀ c ∈ s.toList, c.toNat < 128
  · rw [asciiLower_lower_of_ascii hascii]
  · obtain ⟨c, hc, hforeign⟩ : ∃ c ∈ s.toList, 128 ≤ c.toNat := by
      simpa using hascii
    -- A character beyond ASCII leaves one in both texts that the word does not have.
    refine iff_of_false ?_ ?_
    · intro h
      obtain ⟨d, hd, hown⟩ := exists_mem_lowerFrom hc hforeign []
      have hlower : d ∈ (lower s).toList := by
        rwa [lower, String.toList_ofList]
      have hnot := not_isOwnLower_toLower hown
      rw [isOwnLower_toLower_of_mem hw h hlower] at hnot
      cases hnot
    · intro h
      have hown := isOwnLower_toLower_of_mem hw h hc
      rw [toLower_of_le hforeign, not_isOwnLower_of_le hforeign] at hown
      cases hown

end Text
end TableLexer
