import TableLexer.CommandLine.Session
import TableLexer.Proofs.Builtin.Patterns
import TableLexer.Proofs.Diagnostic.Events

/-!
# Building the tables

A process compiles the tables of all languages when it scans for the first time, and logs
what is wrong with them.  Nothing is wrong: all declared rules compile, and the last rule
of a language takes every probe (`Table.problems_eq_nil`).  So all that is logged is that
the tables are there (`Table.events_build`), in front of the start of that scan and about
the same file (`withTableEvents_cases`).

Which scan is the first one depends on what the process has done before.  A log that a
computation may leave is one with or without these events (`Logged.MayLog`), and both tell
the same errors of the same file (`Told.of_mayLog`).
-/

namespace TableLexer

namespace Table

/-- All declared rules of a language compile. -/
theorem compiles_of_mem_declarations
    {l : Language} {d : Declaration}
    (h : d ∈ declarations l) :
    d.compiles = true := by
  have hcount : (patterns l).length = (declarations l).length := by
    cases l <;> rfl
  have hrules : (builtin l).rules.length = (patterns l).length := by
    have hmatchers := congrArg List.length (builtin_matchers l)
    rwa [List.length_map, List.length_map] at hmatchers
  -- As many rules are in the table as are declared, so none has been dropped.
  have hcompiling := (Declaration.forall₂_declares (declarations l) .held).length_eq
  rw [← builtin_rules, hrules, hcount] at hcompiling
  exact List.length_filter_eq_length_iff.1 hcompiling d h

theorem errors_compileLenient_declarations
    (l : Language) :
    (compileLenient l (declarations l)).2 = [] := by
  rw [compileLenient, errors_compileFrom, List.map_eq_nil_iff, List.filter_eq_nil_iff]
  intro place hplace
  have hmem : place.1 ∈ declarations l := by
    rw [← List.zipIdx_map_fst 0 (declarations l)]
    exact List.mem_map_of_mem hplace
  simp [compiles_of_mem_declarations hmem]

/-- The last rule of a language takes every probe. -/
theorem check_compileLenient_declarations
    (l : Language) :
    (compileLenient l (declarations l)).1.check = .ok () := by
  have hunknown :
      (Rule.ofDeclaration? unknownRule).any (fun r => probes.all r.takesChar) = true := by
    decide +kernel
  obtain ⟨last, hlast, hprobes⟩ := (Option.any_eq_true _ _).1 hunknown
  have hend : (declarations l).getLast? = some unknownRule := by
    cases l <;> rfl
  obtain ⟨others, hothers⟩ := List.getLast?_eq_some_iff.1 hend
  have hrules : (compileLenient l (declarations l)).1.rules.getLast? = some last := by
    rw [compileLenient_rules, hothers, List.filterMap_append, List.filterMap_cons, hlast]
    exact List.getLast?_concat
  rw [check, hrules]
  exact if_pos hprobes

/-- Nothing is wrong with the table of a language. -/
theorem problems_eq_nil
    (l : Language) :
    problems l = [] := by
  unfold problems
  simp only [check_compileLenient_declarations, errors_compileLenient_declarations]

/-- Compiles the table of a language and reports what is wrong with it. -/
def build (l : Language) : Logged Table := do
  let (table, errors) := compileLenient l (declarations l)
  let _ ← Logged.mapEach
    (fun e : TableError =>
      Logged.error e.code "Dropping rule with invalid pattern"
        [("language", l.name), ("error", e.message)])
    errors
  match table.check with
  | .ok () => pure ()
  | .error e =>
    Logged.error e.code "Rule table is malformed, unmatched input will be skipped"
      [("language", l.name), ("error", e.message)]
  Logged.say .debug "Compiled rule table"
    [("language", l.name), ("rules", toString table.rules.length)]
  return table

theorem value_build
    (l : Language) (scope : Scope) :
    (build l).value scope = builtin l := by
  rw [builtin_eq_ofLanguage]
  simp only [build, errors_compileLenient_declarations, check_compileLenient_declarations]
  rfl

/-- Of the compilation of a table nothing is said but that it is there. -/
theorem events_build
    (l : Language) (scope : Scope) :
    (build l).events scope = [compiledEvent scope.now scope.file l] := by
  have hrules : (compileLenient l (declarations l)).1.rules = (builtin l).rules := by
    rw [builtin_eq_ofLanguage]
    rfl
  simp only [build, errors_compileLenient_declarations,
    check_compileLenient_declarations, hrules]
  rfl

end Table

/-! ## Logs with the compilation -/

/-- Either the events are as they are, or there is a scan among them and the tables are
compiled in front of its start, with the same file at hand. -/
theorem withTableEvents_cases
    (now : Timestamp)
    (es : List Event) :
    (withTableEvents now es).1 = es ∨
    ∃ before e behind,
      es = before ++ e :: behind ∧
      (withTableEvents now es).1
        =
      before ++
        (Language.all.map (Table.compiledEvent now (e.context.get? "file")) ++
          e :: behind) := by
  induction es with
  | nil =>
      exact Or.inl rfl
  | cons e rest ih =>
      unfold withTableEvents
      split
      · exact Or.inr ⟨[], e, rest, rfl, rfl⟩
      · rcases ih with hsame | ⟨before, e', behind, hrest, hwith⟩
        · exact Or.inl (congrArg (List.cons e) hsame)
        · refine Or.inr ⟨e :: before, e', behind, ?_, ?_⟩
          · rw [hrest, List.cons_append]
          · exact congrArg (List.cons e) hwith

theorem filter_isError_compiledEvents
    (now : Timestamp) (file : Option String)
    (ls : List Language) :
    (ls.map (Table.compiledEvent now file)).filter Event.isError = [] := by
  rw [List.filter_eq_nil_iff]
  intro e he
  obtain ⟨l, -, rfl⟩ := List.mem_map.1 he
  exact Bool.false_ne_true

/-- The compilation adds no errors. -/
theorem filter_isError_withTableEvents
    (now : Timestamp)
    (es : List Event) :
    (withTableEvents now es).1.filter Event.isError = es.filter Event.isError := by
  rcases withTableEvents_cases now es with hsame | ⟨before, e, behind, hes, hwith⟩
  · rw [hsame]
  · rw [hwith, hes, List.filter_append, List.filter_append, List.filter_append,
      filter_isError_compiledEvents, List.nil_append]

/-- What is told of events is told of them with the compilation. -/
theorem Told.withTableEvents
    {file : Option String} {codes : List Code} {es : List Event}
    (h : Told file codes es)
    (now : Timestamp) :
    Told file codes (withTableEvents now es).1 where
  about path hpath := by
    rcases withTableEvents_cases now es with hsame | ⟨before, e, behind, hes, hwith⟩
    · rw [hsame]
      exact h.about path hpath
    · have habout := h.about path hpath
      have hfile : e.context.get? "file" = some path := habout e (by simp [hes])
      rw [hwith, hfile]
      rw [hes] at habout
      intro e' he'
      rw [List.mem_append, List.mem_append] at he'
      rcases he' with hbefore | hcompiled | hbehind
      · exact habout e' (List.mem_append_left _ hbefore)
      · obtain ⟨l, -, rfl⟩ := List.mem_map.1 hcompiled
        exact Scope.file_deliver _ _ _ rfl
      · exact habout e' (List.mem_append_right _ hbehind)
  errors := by
    rw [filter_isError_withTableEvents, h.errors]

/-- The tables are compiled in front of a scan of the first part, or else of the second
one. -/
theorem withTableEvents_append
    (now : Timestamp)
    (es es' : List Event) :
    (withTableEvents now (es ++ es')).1 = (withTableEvents now es).1 ++ es' ∨
    (withTableEvents now (es ++ es')).1 = es ++ (withTableEvents now es').1 := by
  induction es with
  | nil =>
      exact Or.inr rfl
  | cons e rest ih =>
      rw [List.cons_append, withTableEvents, withTableEvents]
      split
      · left
        simp only [List.append_assoc, List.cons_append]
      · rcases ih with hfirst | hsecond
        · exact Or.inl (congrArg (List.cons e) hfirst)
        · exact Or.inr (congrArg (List.cons e) hsecond)

namespace Logged

variable {α β : Type} {scope : Scope} {log : List Event}

/-- The events that a computation may leave in the log: it is left open whether the tables
are still to be compiled. -/
def MayLog
    (x : Logged α)
    (scope : Scope)
    (log : List Event) :
    Prop :=
  log = x.events scope ∨ log = (withTableEvents scope.now (x.events scope)).1

theorem mayLog_pure_iff
    {a : α} :
    (Pure.pure a : Logged α).MayLog scope log ↔ log = [] :=
  or_self_iff

theorem MayLog.of_events
    {x : Logged α} {y : Logged β}
    (h : x.MayLog scope log)
    (hevents : x.events scope = y.events scope) :
    y.MayLog scope log := by
  unfold MayLog at h ⊢
  rwa [← hevents]

/-- What is done to the answer in the end adds nothing to the log. -/
theorem MayLog.of_bind_pure
    {x : Logged α} {g : α → β}
    (h : (x >>= fun a => Pure.pure (g a)).MayLog scope log) :
    x.MayLog scope log :=
  h.of_events (List.append_nil _)

/-- The log of one computation after the other is in two parts. -/
theorem MayLog.exists_of_bind
    {x : Logged α} {f : α → Logged β}
    (h : (x >>= f).MayLog scope log) :
    ∃ before after,
      x.MayLog scope before ∧
      (f (x.value scope)).MayLog scope after ∧
      log = before ++ after := by
  rcases h with rfl | rfl
  · exact ⟨_, _, Or.inl rfl, Or.inl rfl, rfl⟩
  · rw [events_bind]
    rcases withTableEvents_append scope.now (x.events scope)
      ((f (x.value scope)).events scope) with hfirst | hsecond
    · exact ⟨_, _, Or.inr rfl, Or.inl rfl, hfirst⟩
    · exact ⟨_, _, Or.inl rfl, Or.inr rfl, hsecond⟩

theorem MayLog.reports_eq
    {x : Logged α}
    (h : x.MayLog scope log) :
    reports log = reports (x.events scope) := by
  rcases h with rfl | rfl
  · rfl
  · rw [reports, filter_isError_withTableEvents, reports]

end Logged

theorem Told.of_mayLog
    {α : Type} {x : Logged α} {scope : Scope} {log : List Event}
    {file : Option String} {codes : List Code}
    (h : Told file codes (x.events scope))
    (hlog : x.MayLog scope log) :
    Told file codes log := by
  rcases hlog with rfl | rfl
  · exact h
  · exact h.withTableEvents scope.now

end TableLexer
