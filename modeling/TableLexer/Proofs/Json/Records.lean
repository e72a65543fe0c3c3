import Mathlib.Data.List.Nodup
import TableLexer.Kind
import TableLexer.Language
import TableLexer.Proofs.Text.Decimals

/-!
# Taking out of JSON what was put in

A record that is written with its fields, each name once, is taken apart into their values.
The order of the fields and fields with other names do not matter
(`toRecord?_ofFields_of_perm`), and the values alone do as well (`toRecord?_array`).
Numbers up to the largest one allowed, kinds and languages are found again in what is
written of them.
-/

namespace TableLexer
namespace Json

theorem toNat?_ofNat
    (n : Nat) :
    (ofNat n).toNat? = some n := by
  have hdigits : (toString n).toList = Text.decimal n := by simp [Text.decimal]
  have hall : (Text.decimal n).all Char.isDigit = true :=
    List.all_eq_true.2 fun _ hc => Text.isDigit_of_mem_decimal hc
  rw [ofNat, toNat?, hdigits, if_pos hall, Text.decimal, Nat.ofDigitChars_ten_toDigits]

theorem toNatUpTo?_ofNat
    {largest n : Nat}
    (h : n ≤ largest) :
    (ofNat n).toNatUpTo? largest = some n := by
  rw [toNatUpTo?, toNat?_ofNat]
  exact if_pos h

/-! ## Records -/

/-- Values that are all taken out of what is written of them are so one after the other. -/
theorem mapM_eq_some
    {α β γ : Type}
    {write : γ → α} {take? : α → Option β} {taken : γ → β}
    {xs : List γ}
    (h : ∀ x ∈ xs, take? (write x) = some (taken x)) :
    (xs.map write).mapM take? = some (xs.map taken) := by
  induction xs with
  | nil =>
      rfl
  | cons x xs ih =>
      have htail := ih fun y hy => h y (List.mem_cons_of_mem x hy)
      simp [h x (by simp), htail]

/-- Under the name of a field that shares its name with no other, that field alone is
found. -/
theorem filter_eq_singleton
    {fields : List (String × Json)}
    (hnames : (fields.map Prod.fst).Nodup)
    {f : String × Json}
    (hf : f ∈ fields) :
    fields.filter (fun g => g.1 == f.1) = [f] := by
  obtain ⟨before, behind, rfl⟩ := List.append_of_mem hf
  simp only [List.map_append, List.map_cons, List.nodup_middle, List.nodup_cons,
    List.mem_append, List.mem_map, not_or, not_exists, not_and] at hnames
  obtain ⟨⟨hbefore, hbehind⟩, -⟩ := hnames
  rw [List.filter_append, List.filter_cons_of_pos (by simp),
    List.filter_eq_nil_iff.2 (by simpa using hbefore),
    List.filter_eq_nil_iff.2 (by simpa using hbehind)]
  rfl

/-- Neither the order of the fields nor fields with other names matter to a field of a
record. -/
theorem field?_of_perm
    {record others fields : List (String × Json)}
    (hnames : (record.map Prod.fst).Nodup)
    (hothers : ∀ g ∈ others, g.1 ∉ record.map Prod.fst)
    (hfields : fields.Perm (record ++ others))
    {f : String × Json}
    (hf : f ∈ record) :
    field? f.1 (fields.map fun (key, v) => (some key, v)) = some (some f.2) := by
  have hnone : others.filter (fun g => g.1 == f.1) = [] := by
    refine List.filter_eq_nil_iff.2 ?_
    intro g hg hname
    rw [beq_iff_eq] at hname
    exact hothers g hg (hname ▸ List.mem_map_of_mem hf)
  have hfound : fields.filter (fun g => g.1 == f.1) = [f] := by
    have hperm := hfields.filter fun g => g.1 == f.1
    rw [List.filter_append, filter_eq_singleton hnames hf, hnone, List.append_nil] at hperm
    exact List.perm_singleton.1 hperm
  have hsame :
      (fun g : Option String × Json => g.1 == some f.1) ∘ (fun g => (some g.1, g.2))
        =
      fun g : String × Json => g.1 == f.1 := by
    funext g
    simp
  rw [field?, List.filter_map, hsame, hfound]
  rfl

/-- An object that has the fields of a record, in any order and among others, is taken
apart into the values of the record. -/
theorem toRecord?_ofFields_of_perm
    {record others fields : List (String × Json)}
    (hnames : (record.map Prod.fst).Nodup)
    (hothers : ∀ g ∈ others, g.1 ∉ record.map Prod.fst)
    (hfields : fields.Perm (record ++ others)) :
    (ofFields fields).toRecord? (record.map Prod.fst) =
      some (record.map fun f => some f.2) := by
  have hkeys : (fields.map fun (key, v) => (some key, v)).all (fun f => f.1.isSome) =
      true := by
    simp
  rw [ofFields, toRecord?, if_pos hkeys]
  exact mapM_eq_some fun f hf => field?_of_perm hnames hothers hfields hf

/-- A record is taken apart into the values of its fields. -/
theorem toRecord?_ofFields
    {fields : List (String × Json)}
    (hnames : (fields.map Prod.fst).Nodup) :
    (ofFields fields).toRecord? (fields.map Prod.fst) =
      some (fields.map fun f => some f.2) :=
  toRecord?_ofFields_of_perm hnames (List.forall_mem_nil _) (by simp)

/-- An array of the values of a record, in its order, is taken apart into them. -/
theorem toRecord?_array
    (record : List (String × Json)) :
    (Json.array (record.map Prod.snd)).toRecord? (record.map Prod.fst)
      =
    some (record.map fun f => some f.2) := by
  simp [toRecord?]

end Json

theorem Kind.ofJson?_toJson
    (k : Kind) :
    Kind.ofJson? k.toJson = some k := by
  cases k <;> decide

theorem Language.ofJson?_toJson
    (l : Language) :
    Language.ofJson? l.toJson = some l := by
  cases l <;> decide

/-- A language is meant by its own identifier. -/
theorem Language.parse_name
    (l : Language) :
    Language.parse l.name = .ok l := by
  cases l <;> decide +kernel

end TableLexer
