import TableLexer.Proofs.Json.Layouts
import TableLexer.Proofs.Json.Records
import TableLexer.Token

/-!
# Tokens in JSON

A token is a record of four fields, and its reader only asks for their values
(`Token.ofJson?_of_record`).  So it does not matter which spelling of the record a text is:
with blanks between its parts, with characters of its strings escaped or not, with its
fields in another order, with further fields that hold whatever can be spelled, or as an
array without names.  All of them are read as the token (`Token.spellings_read_back`).

Line and offset have to be in the range of their types; the kind is found by its name, and
the text may hold any character.
-/

namespace TableLexer
namespace Token

/-- A token that can be written: its line and its offset are in the range of their
types. -/
def InRange (t : Token) : Prop :=
  t.line ≤ maxLine ∧ t.position ≤ maxPosition

/-- The fields of the record that a token is. -/
def fields (t : Token) : List (String × Json) :=
  [("kind", t.kind.toJson), ("value", .ofText t.value), ("line", .ofNat t.line),
   ("position", .ofNat t.position)]

theorem nodup_fields
    (t : Token) :
    (t.fields.map Prod.fst).Nodup := by
  simp [fields]

/-- A value that is taken apart into the values of the fields holds the token. -/
theorem ofJson?_of_record
    {t : Token} {v : Json}
    (h : t.InRange)
    (hrecord : v.toRecord? (t.fields.map Prod.fst) =
      some (t.fields.map fun f => some f.2)) :
    ofJson? v = some t := by
  simp only [fields, List.map_cons, List.map_nil] at hrecord
  simp [ofJson?, hrecord, Kind.ofJson?_toJson, Json.ofText, Json.toText?,
    Json.toNatUpTo?_ofNat h.1, Json.toNatUpTo?_ofNat h.2]

theorem ofJson?_toJson
    {t : Token}
    (h : t.InRange) :
    ofJson? t.toJson = some t :=
  ofJson?_of_record h (Json.toRecord?_ofFields t.nodup_fields)

theorem writable_of_mem_fields
    {t : Token} {f : String × Json}
    (hf : f ∈ t.fields) :
    Json.Writable f.2 := by
  simp only [fields, List.mem_cons, List.not_mem_nil, or_false] at hf
  rcases hf with rfl | rfl | rfl | rfl
  · exact Json.writable_ofText t.kind.name
  · exact Json.writable_ofText t.value
  · exact Json.writable_ofNat t.line
  · exact Json.writable_ofNat t.position

theorem writable_toJson
    (t : Token) :
    Json.Writable t.toJson :=
  Json.writable_ofFields fun _ hf => writable_of_mem_fields hf

/-- Whatever the spelling of a value that holds a token, the text of it does. -/
theorem parse?_of_spells
    {t : Token} {v : Json} {before text behind : List Char}
    (hv : ofJson? v = some t)
    (hbefore : Json.Blanks before)
    (htext : Json.Spells (.value v) text)
    (hbehind : Json.Blanks behind) :
    parse? (String.ofList (before ++ (text ++ behind))) = some t := by
  rw [parse?, Json.read?_of_spells hbefore htext hbehind, Option.bind_some, hv]

/--
A token is read back from its compact JSON.  It is also read from every text that spells,
with blanks around it, an object with the four fields of the token, in any order and among
others that have other names, or the array of the four values.
-/
theorem spellings_read_back
    {t : Token}
    (h : t.InRange) :
    parse? t.toJson.compact = some t ∧
    (∀ fields others before text behind,
      (∀ f ∈ others, f.1 ∉ ["kind", "value", "line", "position"]) →
      fields.Perm (t.fields ++ others) →
      Json.Blanks before →
      Json.Spells (.value (.ofFields fields)) text →
      Json.Blanks behind →
      parse? (String.ofList (before ++ (text ++ behind))) = some t) ∧
    (∀ before text behind,
      Json.Blanks before →
      Json.Spells (.value (.array (t.fields.map Prod.snd))) text →
      Json.Blanks behind →
      parse? (String.ofList (before ++ (text ++ behind))) = some t) := by
  refine ⟨?_, ?_, ?_⟩
  · rw [parse?, Json.read?_compact t.writable_toJson, Option.bind_some, ofJson?_toJson h]
  · intro fields others before text behind hothers hfields hbefore htext hbehind
    have hrecord := Json.toRecord?_ofFields_of_perm t.nodup_fields hothers hfields
    exact parse?_of_spells (ofJson?_of_record h hrecord) hbefore htext hbehind
  · intro before text behind hbefore htext hbehind
    have hrecord := Json.toRecord?_array t.fields
    exact parse?_of_spells (ofJson?_of_record h hrecord) hbefore htext hbehind

/-- The largest line and offset, a text that is escaped, and a field in between that hides
another kind in it. -/
theorem spellings_read_back_escaped :
    let t : Token := ⟨.string, "\"\\\n\x01é\"", maxLine, maxPosition⟩
    let others := [("note", Json.ofFields [("kind", .array [.null, .ofText "TAG"])])]
    t.InRange ∧
    parse? t.toJson.compact = some t ∧
    parse? (String.ofList
      ([' ', '\t'] ++
        ((Json.ofFields (t.fields ++ others).reverse).writeIndented 0 ++ ['\n'])))
      = some t ∧
    parse? (String.ofList
      ([] ++ ((Json.array (t.fields.map Prod.snd)).writeIndented 0 ++ ['\r'])))
      = some t := by
  intro t others
  have hrange : t.InRange := ⟨Nat.le_refl _, Nat.le_refl _⟩
  have hothers : ∀ f ∈ others, Json.Writable f.2 := by
    intro f hf
    rw [List.mem_singleton.1 hf]
    refine Json.writable_ofFields ?_
    intro g hg
    rw [List.mem_singleton.1 hg]
    refine .array ?_
    simp [Json.Writable.null, Json.writable_ofText]
  have hobject : Json.Writable (.ofFields (t.fields ++ others).reverse) := by
    refine Json.writable_ofFields ?_
    intro f hf
    rcases List.mem_append.1 (List.mem_reverse.1 hf) with hf | hf
    · exact writable_of_mem_fields hf
    · exact hothers f hf
  have harray : Json.Writable (.array (t.fields.map Prod.snd)) := by
    refine .array ?_
    intro v hv
    obtain ⟨f, hf, rfl⟩ := List.mem_map.1 hv
    exact writable_of_mem_fields hf
  have hblanks : ∀ blanks : List Char, blanks.all Json.isSpace = true →
      Json.Blanks blanks :=
    fun _ hall => List.all_eq_true.1 hall
  obtain ⟨hcompact, hfields, hvalues⟩ := spellings_read_back hrange
  refine ⟨hrange, hcompact, ?_, ?_⟩
  · exact hfields _ others _ _ _ (by simp [others]) (List.reverse_perm _) (hblanks _ rfl)
      (hobject.spells_writeIndented 0) (hblanks _ rfl)
  · exact hvalues _ _ _ (hblanks _ rfl) (harray.spells_writeIndented 0) (hblanks _ rfl)

end Token
end TableLexer
