import TableLexer.Json.Writer
import TableLexer.Proofs.Json.Spelling
import TableLexer.Proofs.Text.Decimals

/-!
# Both layouts are read back

The compact and the indented layout of a value are two of its spellings, if its strings
have texts and its numbers are written as numbers are (`Writable`).  So both are read as
that value (`read?_compact`, `read?_indented`).  Strings may hold any character: those that
are escaped are told apart by their escapes, and all others stand for themselves.
-/

namespace TableLexer
namespace Json

/-! ## Strings -/

theorem hexUnit?_hexDigit :
    ∀ n < 32, hexUnit? '0' '0' (hexDigit (n / 16)) (hexDigit n) = some n := by
  decide

/-- A character is written as one part of a string, which stands for it. -/
theorem exists_spellsPart
    (c : Char) :
    ∃ p, SpellsPart p (escapeChar c) ∧
      (p = .char c ∨ p = .unit c.toNat ∧ c.toNat < 32) := by
  unfold escapeChar
  split
  · exact ⟨_, .letter rfl, Or.inl rfl⟩
  · exact ⟨_, .letter rfl, Or.inl rfl⟩
  · exact ⟨_, .letter rfl, Or.inl rfl⟩
  · exact ⟨_, .letter rfl, Or.inl rfl⟩
  · exact ⟨_, .letter rfl, Or.inl rfl⟩
  · exact ⟨_, .letter rfl, Or.inl rfl⟩
  · exact ⟨_, .letter rfl, Or.inl rfl⟩
  · rename_i hquote hslash _ _ _ _ _
    by_cases hcontrol : c.toNat < 32
    · rw [if_pos hcontrol]
      exact ⟨_, .digits (hexUnit?_hexDigit c.toNat hcontrol), Or.inr ⟨rfl, hcontrol⟩⟩
    · rw [if_neg hcontrol]
      exact ⟨_, .plain (Nat.le_of_not_lt hcontrol) hquote hslash, Or.inl rfl⟩

/-- A unit below the surrogates is a character by itself. -/
theorem joinParts_unit
    {u : Nat}
    (hu : u < 0xD800)
    (found : List Char) (ps : List StringPart) :
    joinParts found (.unit u :: ps) = joinParts (Char.ofNat u :: found) ps := by
  have hhigh : isHighHalf u = false := by
    simp [isHighHalf]
    omega
  have hlow : isLowHalf u = false := by
    simp [isLowHalf]
    omega
  cases ps with
  | nil =>
      simp [joinParts, hhigh, hlow]
  | cons p ps =>
      cases p <;> simp [joinParts, hhigh, hlow]

/-- The characters of a text are written as parts that are joined to that text. -/
theorem exists_spellsParts
    (cs : List Char) :
    ∃ ps,
      SpellsParts ps (cs.flatMap escapeChar) ∧
      ∀ found, joinParts found ps = some (found.reverse ++ cs) := by
  induction cs with
  | nil =>
      exact ⟨[], .nil, fun found => by simp [joinParts]⟩
  | cons c cs ih =>
      obtain ⟨ps, hps, hjoin⟩ := ih
      obtain ⟨p, hp, hchar⟩ := exists_spellsPart c
      refine ⟨p :: ps, .cons hp hps, ?_⟩
      intro found
      rcases hchar with rfl | ⟨rfl, hcontrol⟩
      · simp [joinParts, hjoin]
      · simp [joinParts_unit (by omega : c.toNat < 0xD800), hjoin]

theorem spellsText_writeText
    (s : String) :
    SpellsText (some s) (writeText s) := by
  obtain ⟨ps, hps, hjoin⟩ := exists_spellsParts s.toList
  have htext : (joinParts [] ps).map String.ofList = some s := by
    simp [hjoin]
  rw [← htext]
  exact .mk hps

/-! ## Numbers -/

theorem spellsNumber_decimal
    (n : Nat) :
    SpellsNumber (Text.decimal n) := by
  have hwhole : IsWhole (Text.decimal n) :=
    ⟨⟨Nat.toDigits_ne_nil, fun _ hc => Text.isDigit_of_mem_decimal hc⟩,
      Text.decimal_eq_of_head?⟩
  simpa using SpellsNumber.mk (Or.inl rfl) hwhole (Or.inl rfl) (Or.inl rfl)

/-! ## Values -/

/-- All strings in the value have a text, and all numbers are written as numbers are. -/
inductive Writable : Json → Prop
  | null : Writable .null
  | bool (b : Bool) : Writable (.bool b)
  | number
      {literal : String}
      (written : SpellsNumber literal.toList) :
      Writable (.number literal)
  | string (s : String) : Writable (.string (some s))
  | array
      {vs : List Json}
      (elements : ∀ v ∈ vs, Writable v) :
      Writable (.array vs)
  | object
      {fs : List (Option String × Json)}
      (keys : ∀ f ∈ fs, f.1.isSome = true)
      (values : ∀ f ∈ fs, Writable f.2) :
      Writable (.object fs)

theorem writable_ofNat
    (n : Nat) :
    Writable (.ofNat n) := by
  refine .number ?_
  have hdigits : (toString n).toList = Text.decimal n := by simp [Text.decimal]
  rw [hdigits]
  exact spellsNumber_decimal n

theorem writable_ofText
    (s : String) :
    Writable (.ofText s) :=
  .string s

theorem writable_ofFields
    {fields : List (String × Json)}
    (h : ∀ f ∈ fields, Writable f.2) :
    Writable (.ofFields fields) := by
  refine .object ?_ ?_
  · intro f hf
    obtain ⟨⟨key, v⟩, -, rfl⟩ := List.mem_map.1 hf
    rfl
  · intro f hf
    obtain ⟨⟨key, v⟩, hmem, rfl⟩ := List.mem_map.1 hf
    exact h _ hmem

theorem spellsText_writeOptionalText
    {key : Option String}
    (h : key.isSome = true) :
    SpellsText key (writeOptionalText key) := by
  obtain ⟨s, rfl⟩ := Option.isSome_iff_exists.1 h
  exact spellsText_writeText s

/-! ## The compact layout -/

theorem blanks_nil :
    Blanks [] := by
  intro c hc
  cases hc

theorem spells_writeElements
    {v : Json} {vs : List Json}
    (h : ∀ w ∈ v :: vs, Spells (.value w) w.writeCompact) :
    Spells (.elements (v :: vs)) (writeElements (v :: vs)) := by
  induction vs generalizing v with
  | nil =>
      exact .lastElement (h v (by simp))
  | cons w vs ih =>
      exact .element (h v (by simp)) blanks_nil blanks_nil
        (ih fun w hw => h w (List.mem_cons_of_mem v hw))

theorem spells_writeFields
    {f : Option String × Json} {fs : List (Option String × Json)}
    (hkeys : ∀ g ∈ f :: fs, g.1.isSome = true)
    (h : ∀ g ∈ f :: fs, Spells (.value g.2) g.2.writeCompact) :
    Spells (.fields (f :: fs)) (writeFields (f :: fs)) := by
  induction fs generalizing f with
  | nil =>
      exact .lastField (spellsText_writeOptionalText (hkeys f (by simp)))
        blanks_nil blanks_nil (h f (by simp))
  | cons g fs ih =>
      have hothers :=
        ih (fun g hg => hkeys g (List.mem_cons_of_mem f hg))
          (fun g hg => h g (List.mem_cons_of_mem f hg))
      have hspells :=
        Spells.field (spellsText_writeOptionalText (hkeys f (by simp)))
          blanks_nil blanks_nil (h f (by simp)) blanks_nil blanks_nil hothers
      simpa [writeFields] using hspells

theorem Writable.spells_writeCompact
    {v : Json}
    (h : Writable v) :
    Spells (.value v) v.writeCompact := by
  induction h with
  | null =>
      exact .nullWord
  | bool b =>
      cases b with
      | false =>
          exact .falseWord
      | true =>
          exact .trueWord
  | @number literal written =>
      simpa [writeCompact] using Spells.number written
  | string s =>
      exact .string (spellsText_writeText s)
  | @array vs _ ih =>
      cases vs with
      | nil =>
          exact .emptyArray blanks_nil
      | cons v vs =>
          exact .array blanks_nil (spells_writeElements ih) blanks_nil
  | @object fs keys _ ih =>
      cases fs with
      | nil =>
          exact .emptyObject blanks_nil
      | cons f fs =>
          exact .object blanks_nil (spells_writeFields keys ih) blanks_nil

/-- The compact layout of a value is read as that value. -/
theorem read?_compact
    {v : Json}
    (h : Writable v) :
    read? v.compact = some v := by
  have hread := read?_of_spells blanks_nil h.spells_writeCompact blanks_nil
  simpa [compact] using hread

/-! ## The indented layout -/

theorem blanks_newLine
    (depth : Nat) :
    Blanks (newLine depth) := by
  intro c hc
  rcases List.mem_cons.1 hc with rfl | hspace
  · rfl
  · rw [(List.mem_replicate.1 hspace).2]
    rfl

/-- The first new line stands before the first element, and not in the elements. -/
theorem exists_writeElementLines
    {depth : Nat} {v : Json} {vs : List Json}
    (h : ∀ w ∈ v :: vs, Spells (.value w) (w.writeIndented depth)) :
    ∃ cs,
      writeElementLines depth (v :: vs) = newLine depth ++ cs ∧
      Spells (.elements (v :: vs)) cs := by
  induction vs generalizing v with
  | nil =>
      exact ⟨_, rfl, .lastElement (h v (by simp))⟩
  | cons w vs ih =>
      obtain ⟨cs, hlines, hothers⟩ := ih fun w hw => h w (List.mem_cons_of_mem v hw)
      refine ⟨_, ?_, .element (h v (by simp)) blanks_nil (blanks_newLine depth) hothers⟩
      simp [writeElementLines, hlines]

theorem exists_writeFieldLines
    {depth : Nat} {f : Option String × Json} {fs : List (Option String × Json)}
    (hkeys : ∀ g ∈ f :: fs, g.1.isSome = true)
    (h : ∀ g ∈ f :: fs, Spells (.value g.2) (g.2.writeIndented depth)) :
    ∃ cs,
      writeFieldLines depth (f :: fs) = newLine depth ++ cs ∧
      Spells (.fields (f :: fs)) cs := by
  have hspace : Blanks [' '] := by
    intro c hc
    rw [List.mem_singleton.1 hc]
    rfl
  induction fs generalizing f with
  | nil =>
      refine ⟨_, ?_,
        .lastField (spellsText_writeOptionalText (hkeys f (by simp))) blanks_nil
        hspace (h f (by simp))⟩
      simp [writeFieldLines]
  | cons g fs ih =>
      obtain ⟨cs, hlines, hothers⟩ :=
        ih (fun g hg => hkeys g (List.mem_cons_of_mem f hg))
          (fun g hg => h g (List.mem_cons_of_mem f hg))
      refine ⟨_, ?_, .field (spellsText_writeOptionalText (hkeys f (by simp))) blanks_nil
        hspace (h f (by simp)) blanks_nil (blanks_newLine depth) hothers⟩
      simp [writeFieldLines, hlines]

theorem Writable.spells_writeIndented
    {v : Json}
    (h : Writable v)
    (depth : Nat) :
    Spells (.value v) (v.writeIndented depth) := by
  induction h generalizing depth with
  | null =>
      simpa [writeIndented] using Spells.nullWord
  | bool b =>
      cases b with
      | false =>
          simpa [writeIndented] using Spells.falseWord
      | true =>
          simpa [writeIndented] using Spells.trueWord
  | @number literal written =>
      simpa [writeIndented] using Spells.number written
  | string s =>
      simpa [writeIndented, writeOptionalText] using Spells.string (spellsText_writeText s)
  | @array vs _ ih =>
      cases vs with
      | nil =>
          simpa [writeIndented] using Spells.emptyArray blanks_nil
      | cons v vs =>
          obtain ⟨cs, hlines, helements⟩ :=
            exists_writeElementLines fun w hw => ih w hw (depth + 1)
          have hspells :=
            Spells.array (blanks_newLine (depth + 1)) helements (blanks_newLine depth)
          simpa [writeIndented, hlines] using hspells
  | @object fs keys _ ih =>
      cases fs with
      | nil =>
          simpa [writeIndented] using Spells.emptyObject blanks_nil
      | cons f fs =>
          obtain ⟨cs, hlines, hfields⟩ :=
            exists_writeFieldLines keys fun g hg => ih g hg (depth + 1)
          have hspells :=
            Spells.object (blanks_newLine (depth + 1)) hfields (blanks_newLine depth)
          simpa [writeIndented, hlines] using hspells

/-- The indented layout of a value is read as that value. -/
theorem read?_indented
    {v : Json}
    (h : Writable v) :
    read? v.indented = some v := by
  have hread := read?_of_spells blanks_nil (h.spells_writeIndented 0) blanks_nil
  simpa [indented] using hread

end Json
end TableLexer
