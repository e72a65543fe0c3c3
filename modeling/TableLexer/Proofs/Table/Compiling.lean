import Mathlib.Data.List.Forall2
import TableLexer.Table.Basic

/-!
# Strict and lenient compilation

Declarations are compiled in two ways.  The lenient one keeps every rule that can be read
and notes an error for each of the others; the strict one stops at the first error and
checks the table in the end.

What the lenient one gives is said by two filters over the declarations, one for each half
(`compileFrom_fst`, `errors_compileFrom`).  The places of the errors are counted over all
declarations, so the second filter goes over the declarations with their places.

The strict one is then said in terms of the lenient one (`compileAll_eq`): it gives up with
the first of the errors, and without errors it has the same rules.

All of this holds whatever tables of property classes the patterns are read with.
-/

namespace TableLexer

open Pattern (PropertyClasses)

/-- The pattern of the declaration can be read and is not too large. -/
def Declaration.compiles
    (d : Declaration)
    (properties : PropertyClasses := .held) :
    Bool :=
  (Rule.ofDeclaration? d properties).isSome

/-- The rule is the one that is declared, with the declared kind and pattern. -/
def Declaration.Declares
    (d : Declaration) (r : Rule)
    (properties : PropertyClasses := .held) :
    Prop :=
  Rule.ofDeclaration? d properties = some r ∧ r.kind = d.kind ∧ r.pattern = d.pattern

variable {properties : PropertyClasses}

theorem Declaration.declares_of_some
    {d : Declaration} {r : Rule}
    (h : Rule.ofDeclaration? d properties = some r) :
    d.Declares r properties := by
  have hrule := h
  unfold Rule.ofDeclaration? at h
  split at h
  · cases h
  · obtain ⟨m, -, rfl⟩ := Option.map_eq_some_iff.1 h
    exact ⟨hrule, rfl, rfl⟩

/-- The rules that can be read are declared by the declarations that compile, one by
one. -/
theorem Declaration.forall₂_declares
    (ds : List Declaration)
    (properties : PropertyClasses) :
    List.Forall₂ (Declares · · properties) (ds.filter (compiles · properties))
      (ds.filterMap (Rule.ofDeclaration? · properties)) := by
  induction ds with
  | nil =>
      exact List.Forall₂.nil
  | cons d ds ih =>
      rw [List.filter_cons, List.filterMap_cons, compiles]
      cases hrule : Rule.ofDeclaration? d properties with
      | none =>
          exact ih
      | some r =>
          exact List.Forall₂.cons (declares_of_some hrule) ih

namespace Table

variable (language : Language)

/-- The error for a declaration at its place, if its pattern cannot be read. -/
def problemAt (place : Declaration × Nat) : TableError :=
  .invalidPattern language place.2 place.1.kind

/-! ## The lenient compilation -/

/-- The rules of a table are the declared ones that can be read. -/
theorem compileFrom_fst
    (l : Language) (index : Nat)
    (ds : List Declaration) :
    (compileFrom l index ds properties).1 =
      ds.filterMap (Rule.ofDeclaration? · properties) := by
  induction ds generalizing index with
  | nil =>
      rfl
  | cons d ds ih =>
      rw [compileFrom, List.filterMap_cons, ← ih (index + 1)]
      cases Rule.ofDeclaration? d properties <;> rfl

theorem language_compileLenient
    (l : Language) (ds : List Declaration) :
    (compileLenient l ds properties).1.language = l := by
  rfl

theorem compileLenient_rules
    (l : Language) (ds : List Declaration) :
    (compileLenient l ds properties).1.rules
      =
    ds.filterMap (Rule.ofDeclaration? · properties) :=
  compileFrom_fst l 0 ds

/-- The errors are those of the declarations that do not compile, each at its place among
all declarations. -/
theorem errors_compileFrom
    (index : Nat)
    (declarations : List Declaration) :
    (compileFrom language index declarations properties).2
      =
    ((declarations.zipIdx index).filter fun place => !place.1.compiles properties).map
      (problemAt language) := by
  induction declarations generalizing index with
  | nil =>
      rfl
  | cons d rest ih =>
      rw [List.zipIdx_cons, List.filter_cons, compileFrom, Declaration.compiles]
      cases Rule.ofDeclaration? d properties with
      | none =>
          exact congrArg (List.cons _) (ih (index + 1))
      | some r =>
          exact ih (index + 1)

/-- Without errors no rule has been dropped. -/
theorem length_rules_of_no_errors
    {index : Nat}
    {declarations : List Declaration}
    (h : (compileFrom language index declarations properties).2 = []) :
    (compileFrom language index declarations properties).1.length =
      declarations.length := by
  have hall : ∀ d ∈ declarations, d.compiles properties = true := by
    rw [errors_compileFrom, List.map_eq_nil_iff, List.filter_eq_nil_iff] at h
    intro d hd
    obtain ⟨place, hplace, rfl⟩ : ∃ place ∈ declarations.zipIdx index, place.1 = d := by
      rw [← List.mem_map, List.zipIdx_map_fst]
      exact hd
    simpa using h place hplace
  rw [compileFrom_fst, ← (Declaration.forall₂_declares declarations properties).length_eq,
    List.filter_eq_self.2 hall]

/-! ## The strict compilation -/

/-- The strict compilation gives up with the first error of the lenient one, and without
errors it has the same rules. -/
theorem compileAll_eq
    (index : Nat)
    (declarations : List Declaration) :
    compileAll language index declarations properties
      =
    match compileFrom language index declarations properties with
    | (rules, []) => .ok rules
    | (_, e :: _) => .error e := by
  induction declarations generalizing index with
  | nil =>
      rfl
  | cons d rest ih =>
      rw [compileAll, compileFrom, ih]
      cases Rule.ofDeclaration? d properties with
      | none =>
          rfl
      | some r =>
          obtain ⟨rules, errors⟩ := compileFrom language (index + 1) rest properties
          cases errors <;> rfl

theorem check_eq_empty_iff
    {t : Table} {l : Language} :
    t.check = .error (.empty l) ↔ t.rules = [] ∧ t.language = l := by
  unfold check
  cases hlast : t.rules.getLast? with
  | none =>
      simp [List.getLast?_eq_none_iff.1 hlast]
  | some last =>
      have hrules : t.rules ≠ [] := by
        intro hnil
        rw [hnil] at hlast
        cases hlast
      simp only [hrules, false_and, iff_false]
      split <;> exact nofun

section Strict

variable (declarations : List Declaration)

/-- The answer of the strict compilation in terms of what the lenient one gives. -/
theorem ofDeclarations_eq :
    ofDeclarations language declarations properties
      =
    match (compileLenient language declarations properties).2 with
    | [] => (compileLenient language declarations properties).1.check.map fun _ =>
        (compileLenient language declarations properties).1
    | e :: _ => .error e := by
  rw [ofDeclarations, compileAll_eq, compileLenient]
  obtain ⟨rules, errors⟩ := compileFrom language 0 declarations properties
  cases errors with
  | nil =>
      simp only
      cases check ⟨language, rules⟩ <;> rfl
  | cons e errors =>
      rfl

theorem ofDeclarations_eq_ok_iff
    {t : Table} :
    ofDeclarations language declarations properties = .ok t
      ↔
    (compileLenient language declarations properties).2 = [] ∧
    (compileLenient language declarations properties).1.check = .ok () ∧
    t = (compileLenient language declarations properties).1 := by
  rw [ofDeclarations_eq]
  obtain ⟨lenient, errors⟩ := compileLenient language declarations properties
  cases errors with
  | nil =>
      cases lenient.check <;> simp [Except.map, eq_comm]
  | cons first others =>
      simp

theorem ofDeclarations_eq_error_iff
    {e : TableError} :
    ofDeclarations language declarations properties = .error e
      ↔
    (compileLenient language declarations properties).2.head? = some e ∨
    ((compileLenient language declarations properties).2 = [] ∧
      (compileLenient language declarations properties).1.check = .error e) := by
  rw [ofDeclarations_eq]
  obtain ⟨lenient, errors⟩ := compileLenient language declarations properties
  cases errors with
  | nil =>
      cases lenient.check <;> simp [Except.map]
  | cons first others =>
      simp

/-- The strict compilation finds the table empty only if nothing is declared: a rule that
is dropped has an error, which comes first. -/
theorem ofDeclarations_eq_empty_iff :
    ofDeclarations language declarations properties = .error (.empty language)
      ↔
    declarations = [] := by
  rw [ofDeclarations_eq_error_iff, check_eq_empty_iff]
  constructor
  · rintro (hfirst | ⟨hnone, hrules, -⟩)
    · rw [compileLenient, errors_compileFrom] at hfirst
      obtain ⟨place, -, heq⟩ := List.mem_map.1 (List.mem_of_mem_head? hfirst)
      cases heq
    · have hlength := length_rules_of_no_errors language hnone
      rw [show (compileFrom language 0 declarations properties).1 =
        [] from hrules] at hlength
      exact List.length_eq_zero_iff.1 hlength.symm
  · rintro rfl
    exact Or.inr ⟨rfl, rfl, rfl⟩

end Strict

/--
Strict and lenient compilation agree, whatever the declarations are and whichever property
classes are known.  The lenient table has exactly the rules that compile, in the order of
their declarations and with their kinds and patterns, and for each other declaration there
is an error with its place among all declarations and its kind, in order.  The strict
compilation succeeds exactly if there are no such errors and the lenient table passes the
check, and then it is that table.  It fails with the first such error if there is one, and
else with what the check finds; that the table is empty it finds exactly if nothing is
declared.
-/
theorem compilations_agree
    (language : Language)
    (declarations : List Declaration)
    (properties : PropertyClasses) :
    let lenient := (compileLenient language declarations properties).1
    let errors := (compileLenient language declarations properties).2
    let strict := ofDeclarations language declarations properties
    lenient.language = language ∧
    List.Forall₂ (Declaration.Declares · · properties)
      (declarations.filter (Declaration.compiles · properties)) lenient.rules ∧
    errors
      =
    ((declarations.zipIdx.filter fun place => !place.1.compiles properties).map
      fun place => .invalidPattern language place.2 place.1.kind) ∧
    (∀ t, strict = .ok t ↔ errors = [] ∧ lenient.check = .ok () ∧ t = lenient) ∧
    (∀ e, strict = .error e ↔
      errors.head? = some e ∨ (errors = [] ∧ lenient.check = .error e)) ∧
    (strict = .error (.empty language) ↔ declarations = []) := by
  intro lenient errors strict
  have hrules : lenient.rules =
      declarations.filterMap (Rule.ofDeclaration? · properties) :=
    compileLenient_rules language declarations
  exact ⟨language_compileLenient language declarations,
    hrules ▸ Declaration.forall₂_declares declarations properties,
    errors_compileFrom language 0 declarations,
    fun t => ofDeclarations_eq_ok_iff language declarations,
    fun e => ofDeclarations_eq_error_iff language declarations,
    ofDeclarations_eq_empty_iff language declarations⟩

end Table
end TableLexer
