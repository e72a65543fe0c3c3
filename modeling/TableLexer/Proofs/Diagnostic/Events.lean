import TableLexer.Diagnostic.Log

/-!
# What computations say

The events of a computation are those of its parts, one after the other
(`Logged.events_bind`).  `Told` says of events which file all of them are about, and which
codes the errors among them have.  An event that is delivered while a file is at hand is
about that file, whatever else is said with it (`told_deliver`).

`Logged.Tells` says this of a computation whose answer decides on the errors.  It is put
together along the steps of the computation, so that each way through it that ends with an
error has to report this error, and no other way may report one.
-/

namespace TableLexer

namespace Context

theorem lookup_cons_eq_ite
    (k key value : String)
    (rest : List (String × String)) :
    ((key, value) :: rest).lookup k = if k = key then some value else rest.lookup k := by
  rw [List.lookup_cons]
  by_cases h : k = key
  · rw [if_pos h, beq_iff_eq.2 h]
  · rw [if_neg h, beq_eq_false_iff_ne.2 h]

theorem lookup_insertEntry
    (key value k : String)
    (entries : List (String × String)) :
    (insertEntry key value entries).lookup k
      =
    if k = key then some value else entries.lookup k := by
  induction entries with
  | nil =>
      exact lookup_cons_eq_ite k key value []
  | cons e rest ih =>
      obtain ⟨key', v⟩ := e
      unfold insertEntry
      split
      · next heq =>
          subst heq
          by_cases hk : k = key <;> simp [lookup_cons_eq_ite, hk]
      · next hne =>
          split
          · rw [lookup_cons_eq_ite]
          · rw [lookup_cons_eq_ite, lookup_cons_eq_ite, ih]
            by_cases hk : k = key
            · rw [if_pos hk, if_pos hk, if_neg (hk ▸ hne)]
            · rw [if_neg hk, if_neg hk]

/-- The value that is put in is found under its name, and every other name as before. -/
@[simp] theorem get?_insert
    (c : Context)
    (key value k : String) :
    (c.insert key value).get? k = if k = key then some value else c.get? k :=
  lookup_insertEntry key value k c.entries

end Context

namespace Scope

variable (scope : Scope) (event : Event) (pairs : List (String × String))

@[simp] theorem level_deliver :
    (scope.deliver event pairs).level = event.level := rfl

@[simp] theorem code_deliver :
    (scope.deliver event pairs).code = event.code := rfl

/-- What is delivered is about the file at hand, whatever the event says about a file. -/
theorem file_deliver
    {file : String}
    (h : scope.file = some file) :
    (scope.deliver event pairs).context.get? "file" = some file := by
  simp [deliver, h]

end Scope

namespace Logged

section Events

variable {α β : Type} (scope : Scope)

@[simp] theorem events_pure
    (a : α) :
    (Pure.pure a : Logged α).events scope = [] := rfl

@[simp] theorem events_bind
    (x : Logged α) (f : α → Logged β) :
    (x >>= f).events scope = x.events scope ++ (f (x.value scope)).events scope := rfl

@[simp] theorem events_now :
    now.events scope = [] := rfl

@[simp] theorem events_within
    (path : String) (x : Logged α) :
    (within path x).events scope = x.events { scope with file := some path } := rfl

@[simp] theorem events_emitNow
    (level : Level) (code : Code) (message : String)
    (pairs : List (String × String)) :
    (emitNow level code message pairs).events scope
      =
    [scope.deliver (.coded scope.now level code message) pairs] := rfl

@[simp] theorem events_mapEach
    (f : α → Logged β) (xs : List α) :
    (mapEach f xs).events scope = xs.flatMap fun a => (f a).events scope := by
  induction xs with
  | nil =>
      rfl
  | cons a rest ih =>
      have hrest : (mapEach f (a :: rest)).events scope
          = (f a).events scope ++ ((mapEach f rest).events scope ++ []) := rfl
      rw [hrest, List.append_nil, ih, List.flatMap_cons]

end Events

end Logged

/-! ## The file and the errors that events tell -/

/-- The errors among events, each with its file and its code. -/
def reports (es : List Event) : List (Option String × Code) :=
  (es.filter Event.isError).map fun e => (e.context.get? "file", e.code)

theorem reports_append
    (es es' : List Event) :
    reports (es ++ es') = reports es ++ reports es' := by
  rw [reports, List.filter_append, List.map_append, reports, reports]

theorem length_reports
    (es : List Event) :
    (reports es).length = es.countP Event.isError := by
  rw [reports, List.length_map, List.countP_eq_length_filter]

/-- Leaving out events that are no errors leaves out no error. -/
theorem filter_isError_filter
    {keep : Event → Bool}
    (h : ∀ e, e.isError = true → keep e = true)
    (es : List Event) :
    (es.filter keep).filter Event.isError = es.filter Event.isError := by
  rw [List.filter_filter]
  congr 1
  funext e
  cases herror : e.isError with
  | true =>
      exact h e herror
  | false =>
      rfl

/-- All events are about the file, if there is one, and the errors among them have the
codes, in order. -/
structure Told
    (file : Option String)
    (codes : List Code)
    (es : List Event) :
    Prop where
  about : ∀ path, file = some path → ∀ e ∈ es, e.context.get? "file" = some path
  errors : (es.filter Event.isError).map Event.code = codes

section Told

variable {file : Option String} {codes codes' : List Code} {es es' : List Event}

theorem told_nil :
    Told file [] [] :=
  ⟨fun _ _ => List.forall_mem_nil _, rfl⟩

theorem Told.append
    (h : Told file codes es)
    (h' : Told file codes' es') :
    Told file (codes ++ codes') (es ++ es') where
  about path hpath e he :=
    (List.mem_append.1 he).elim (h.about path hpath e) (h'.about path hpath e)
  errors := by
    rw [List.filter_append, List.map_append, h.errors, h'.errors]

/-- An event that is delivered is about the file at hand, and its level tells whether it is
an error. -/
theorem told_deliver
    (scope : Scope)
    (event : Event)
    (pairs : List (String × String)) :
    Told scope.file (if event.level = .error then [event.code] else [])
      [scope.deliver event pairs] where
  about path hpath e he := by
    rw [List.mem_singleton.1 he]
    exact scope.file_deliver event pairs hpath
  errors := by
    by_cases h : event.level = .error <;> simp [Event.isError, h]

/-- Events that are no errors can be left out. -/
theorem Told.filter
    (h : Told file codes es)
    {keep : Event → Bool}
    (hkeep : ∀ e, e.isError = true → keep e = true) :
    Told file codes (es.filter keep) where
  about path hpath e he := h.about path hpath e (List.mem_filter.1 he).1
  errors := by
    rw [filter_isError_filter hkeep, h.errors]

/-- Without codes there are no errors, whatever the events are about. -/
theorem Told.filter_isError_eq_nil
    (h : Told file [] es) :
    es.filter Event.isError = [] :=
  List.map_eq_nil_iff.1 h.errors

/-- With one code there is one error. -/
theorem Told.exists_error
    {code : Code}
    (h : Told file [code] es) :
    ∃ e, es.filter Event.isError = [e] ∧ e.code = code := by
  obtain ⟨e, he, hcode⟩ := List.map_eq_singleton_iff.1 h.errors
  exact ⟨e, he, hcode⟩

theorem Told.reports_eq
    {path : String}
    (h : Told (some path) codes es) :
    reports es = codes.map fun code => (some path, code) := by
  rw [reports, ← h.errors, List.map_map]
  refine List.map_congr_left fun e he => ?_
  rw [h.about path rfl e (List.mem_filter.1 he).1]
  rfl

end Told

namespace Logged

variable {α β ε : Type}

/-- All that the computation says is about the file at hand, and the errors among it have
the codes that the answer gives. -/
def Tells
    (codes : α → List Code)
    (x : Logged α) :
    Prop :=
  ∀ scope, Told scope.file (codes (x.value scope)) (x.events scope)

/-- The computation says no error. -/
def TellsNoError (x : Logged α) : Prop :=
  Tells (fun _ => []) x

/-- The code of the error that the answer is, if it is one. -/
def codeOf
    (code : ε → Code) :
    Except ε α → List Code
  | .ok _ => []
  | .error e => [code e]

theorem tells_pure
    {codes : α → List Code} {a : α}
    (h : codes a = []) :
    Tells codes (Pure.pure a) := by
  intro scope
  rw [value_pure, h]
  exact told_nil

theorem tellsNoError_now :
    TellsNoError now :=
  fun _ => told_nil

/-- After a computation without errors the errors are those of what follows. -/
theorem TellsNoError.bind
    {codes : β → List Code} {x : Logged α} {f : α → Logged β}
    (hx : TellsNoError x)
    (hf : ∀ a, Tells codes (f a)) :
    Tells codes (x >>= f) := by
  intro scope
  exact (hx scope).append (hf _ scope)

theorem tellsNoError_emitNow
    {level : Level}
    (h : level ≠ .error)
    (code : Code) (message : String)
    (pairs : List (String × String)) :
    TellsNoError (emitNow level code message pairs) := by
  intro scope
  have htold := told_deliver scope (.coded scope.now level code message) pairs
  rwa [Event.coded, if_neg h] at htold

/-- An error is reported with its code and is the answer then. -/
theorem tells_error
    (code : ε → Code) (e : ε)
    (message : String)
    (pairs : List (String × String)) :
    Tells (codeOf code)
      (error (code e) message pairs >>=
        fun _ => Pure.pure (Except.error e : Except ε α)) := by
  intro scope
  exact told_deliver scope (.coded scope.now .error (code e) message) pairs

/-- An error that has been reported is passed on without another word; without one, the
errors are those of what follows. -/
theorem Tells.bind_except
    {code : ε → Code} {codes : β → List Code}
    {x : Logged (Except ε α)} {f : Except ε α → Logged β}
    (hx : Tells (codeOf code) x)
    (herror : ∀ e, ∃ b, f (.error e) = Pure.pure b ∧ codes b = [code e])
    (hok : ∀ a, Tells codes (f (.ok a))) :
    Tells codes (x >>= f) := by
  intro scope
  have hfirst := hx scope
  rw [value_bind, events_bind]
  cases hvalue : x.value scope with
  | error e =>
      obtain ⟨b, hb, hcodes⟩ := herror e
      rw [hvalue] at hfirst
      rw [hb, value_pure, events_pure, hcodes, List.append_nil]
      exact hfirst
  | ok a =>
      rw [hvalue] at hfirst
      exact hfirst.append (hok a scope)

/-- With a file put around it, a computation speaks of this file. -/
theorem Tells.within
    {codes : α → List Code} {x : Logged α}
    (h : Tells codes x)
    (path : String)
    (scope : Scope) :
    Told (some path) (codes ((within path x).value scope))
      ((within path x).events scope) :=
  h { scope with file := some path }

end Logged

end TableLexer
