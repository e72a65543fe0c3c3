/-!
# TOML values

What a TOML document holds.  A table remembers how it came to be, because that decides who
may still add to it: a header opens a table once, dotted keys may add only to tables that
dotted keys made, and an inline table is closed for good.
-/

namespace TableLexer

/-- How a table came to be. -/
inductive TableOrigin where
  /-- By a header of its own, or as the document itself. -/
  | header
  /-- As part of the path in the header of another table. -/
  | implied
  /-- As part of a dotted key. -/
  | dotted
  /-- As a value between braces. -/
  | inline
deriving DecidableEq, Repr

/-- Dotted keys may not add to the table. -/
def TableOrigin.isExplicit : TableOrigin → Bool
  | .header | .inline => true
  | .implied | .dotted => false

/-- A TOML value. -/
inductive Toml where
  | string (text : String)
  | integer (value : Int)
  | float
  | boolean (value : Bool)
  | datetime
  | array (elements : List Toml)
  | table (origin : TableOrigin) (entries : List (String × Toml))
  /-- The tables that share a doubly bracketed header, in order. -/
  | tables (rows : List (List (String × Toml)))
deriving Repr

namespace Toml

/-! ## Equality -/

mutual

/-- The values are the same. -/
def same : Toml → Toml → Bool
  | string s, string t => s = t
  | integer m, integer n => m = n
  | boolean a, boolean b => a = b
  | float, float | datetime, datetime => true
  | array vs, array ws => sameAll vs ws
  | table o es, table p fs => o = p && sameEntries es fs
  | tables rs, tables qs => sameRows rs qs
  | _, _ => false

/-- The values are the same one by one. -/
def sameAll : List Toml → List Toml → Bool
  | [], [] => true
  | v :: vs, w :: ws => same v w && sameAll vs ws
  | _, _ => false

/-- The keys and the values are the same one by one. -/
def sameEntries : List (String × Toml) → List (String × Toml) → Bool
  | [], [] => true
  | (k, v) :: es, (l, w) :: fs => k = l && same v w && sameEntries es fs
  | _, _ => false

/-- The entries are the same row by row. -/
def sameRows : List (List (String × Toml)) → List (List (String × Toml)) → Bool
  | [], [] => true
  | es :: rs, fs :: qs => sameEntries es fs && sameRows rs qs
  | _, _ => false

end

mutual

theorem same_iff : ∀ v w, same v w = true ↔ v = w
  | array vs, w => by
    cases w <;> simp [same, sameAll_iff vs]
  | table o es, w => by
    cases w <;> simp [same, sameEntries_iff es]
  | tables rs, w => by
    cases w <;> simp [same, sameRows_iff rs]
  | string s, w => by
    cases w <;> simp [same]
  | integer n, w => by
    cases w <;> simp [same]
  | boolean b, w => by
    cases w <;> simp [same]
  | float, w => by
    cases w <;> simp [same]
  | datetime, w => by
    cases w <;> simp [same]

theorem sameAll_iff : ∀ vs ws, sameAll vs ws = true ↔ vs = ws
  | [], ws => by
    cases ws <;> simp [sameAll]
  | v :: vs, ws => by
    cases ws <;> simp [sameAll, same_iff v, sameAll_iff vs]

theorem sameEntries_iff : ∀ es fs, sameEntries es fs = true ↔ es = fs
  | [], fs => by
    cases fs <;> simp [sameEntries]
  | (k, v) :: es, [] => by
    simp [sameEntries]
  | (k, v) :: es, (l, w) :: fs => by
    simp [sameEntries, same_iff v, sameEntries_iff es]

theorem sameRows_iff : ∀ rs qs, sameRows rs qs = true ↔ rs = qs
  | [], qs => by
    cases qs <;> simp [sameRows]
  | es :: rs, qs => by
    cases qs <;> simp [sameRows, sameEntries_iff es, sameRows_iff rs]

end

instance : DecidableEq Toml := fun v w => decidable_of_iff _ (same_iff v w)

/-! ## Tables -/

/-- The value of a key. -/
def get? (key : String) (entries : List (String × Toml)) : Option Toml :=
  entries.lookup key

/-- The entries with another value for a key that they have. -/
def replace (key : String) (v : Toml) (entries : List (String × Toml)) :
    List (String × Toml) :=
  entries.map fun e => if e.1 = key then (key, v) else e

/--
Walks a path of keys from a table and changes the table at its end; the tables on the way
that are missing are made.  Of tables that share a header the last one is meant.  Fails
where a key holds something else, and where dotted keys would add to a table that was made
otherwise.
-/
def changeAt (viaDots : Bool)
    (change : TableOrigin → List (String × Toml) →
      Option (TableOrigin × List (String × Toml))) :
    List String → TableOrigin → List (String × Toml) →
      Option (TableOrigin × List (String × Toml))
  | [], origin, entries => change origin entries
  | key :: path, origin, entries =>
    match get? key entries with
    | none =>
      let made : TableOrigin := if viaDots then .dotted else .implied
      (changeAt viaDots change path made []).map fun (o, es) =>
        (origin, entries ++ [(key, table o es)])
    | some (table inner es) =>
      if inner = .inline ∨ (viaDots ∧ inner.isExplicit) then
        none
      else
        (changeAt viaDots change path inner es).map fun (o, es) =>
          (origin, replace key (table o es) entries)
    | some (tables rows) =>
      match rows.getLast? with
      | none => none
      | some row =>
        (changeAt viaDots change path .header row).map fun (_, es) =>
          (origin, replace key (tables (rows.dropLast ++ [es])) entries)
    | some _ => none

/-- Gives a key its value in a table; a key may be given once. -/
def addEntry (key : String) (v : Toml) (entries : List (String × Toml)) :
    Option (List (String × Toml)) :=
  match get? key entries with
  | none => some (entries ++ [(key, v)])
  | some _ => none

/-- Gives a dotted key its value, from the table that the key stands in. -/
def assign (path : List String) (key : String) (v : Toml) (origin : TableOrigin)
    (entries : List (String × Toml)) : Option (TableOrigin × List (String × Toml)) :=
  changeAt true
    (fun o es =>
      if path.isEmpty ∨ o = .dotted then (addEntry key v es).map fun es => (o, es)
      else none)
    path origin entries

/-- Opens the table of a header below the table that the header's path leads to. -/
def openTable (key : String) (origin : TableOrigin) (entries : List (String × Toml)) :
    Option (TableOrigin × List (String × Toml)) :=
  match get? key entries with
  | none => some (origin, entries ++ [(key, table .header [])])
  | some (table .implied es) => some (origin, replace key (table .header es) entries)
  | some _ => none

/-- Opens a further table of a doubly bracketed header. -/
def openRow (key : String) (origin : TableOrigin) (entries : List (String × Toml)) :
    Option (TableOrigin × List (String × Toml)) :=
  match get? key entries with
  | none => some (origin, entries ++ [(key, tables [[]])])
  | some (tables rows) => some (origin, replace key (tables (rows ++ [[]])) entries)
  | some _ => none

end Toml
end TableLexer
