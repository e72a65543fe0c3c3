import TableLexer.Proofs.Files.Checks

/-!
# Steps and their messages

A run says much on the standard error output, and what it says there depends on the log
settings and on what has been said before.  Nothing else does.  `Leads` is the account of a
step in which messages do not count: from every session like the one at hand it has the
same answer, and the session that it leads to is the same but for its messages.  Each step
of a run has one such account, and the account of a sequence follows from those of its
steps.

A step that has an account from every session is `Deaf`.  All steps that take inputs are
(`deaf_analyzeAll`): what has been said on the way to a session has no influence on what
happens there.
-/

namespace TableLexer
namespace Session

/-- The sessions are the same but for their messages. -/
structure Alike (s u : Session) : Prop where
  files : u.files = s.files
  input : u.input = s.input
  out : u.out = s.out
  history : u.history = s.history
  written : u.written = s.written

theorem Alike.refl
    (s : Session) :
    Alike s s :=
  ⟨rfl, rfl, rfl, rfl, rfl⟩

/-- Sessions like the same session are alike. -/
theorem Alike.trans_symm
    {s u v : Session}
    (hu : Alike s u) (hv : Alike s v) :
    Alike u v :=
  ⟨hv.files.trans hu.files.symm, hv.input.trans hu.input.symm, hv.out.trans hu.out.symm,
    hv.history.trans hu.history.symm, hv.written.trans hu.written.symm⟩

/-- From every session like `s` the step has this answer and leads to a session like
`s'`. -/
def Leads
    {α : Type}
    (x : Step α)
    (s : Session)
    (answer : Except String α)
    (s' : Session) :
    Prop :=
  ∀ u, Alike s u → ∃ u', x.run.run u = (answer, u') ∧ Alike s' u'

/-- Messages do not count for the step, whatever the session is. -/
def Deaf
    {α : Type}
    (x : Step α) :
    Prop :=
  ∀ s, ∃ answer s', Leads x s answer s'

section Sequences

variable {α β : Type} {x : Step α} {f : α → Step β}
variable {s s₁ s₂ : Session} {answer : Except String β}

theorem leads_pure
    (a : α) (s : Session) :
    Leads (pure a) s (.ok a) s :=
  fun u hu => ⟨u, rfl, hu⟩

theorem leads_throw
    (message : String) (s : Session) :
    Leads (throw message : Step α) s (.error message) s :=
  fun u hu => ⟨u, rfl, hu⟩

theorem Leads.bind
    {a : α}
    (hx : Leads x s (.ok a) s₁)
    (hf : Leads (f a) s₁ answer s₂) :
    Leads (x >>= f) s answer s₂ := by
  intro u hu
  obtain ⟨u₁, hrun, hu₁⟩ := hx u hu
  rw [run_bind_of_ok hrun]
  exact hf u₁ hu₁

theorem Leads.bind_error
    {message : String}
    (hx : Leads x s (.error message) s₁) :
    Leads (x >>= f) s (.error message) s₁ := by
  intro u hu
  obtain ⟨u₁, hrun, hu₁⟩ := hx u hu
  refine ⟨u₁, ?_, hu₁⟩
  rw [ExceptT.run_bind, StateT.run_bind, hrun]
  rfl

/-- A step may look at the session, if it does not look at messages. -/
theorem leads_get
    {f : Session → Step β}
    (hlook : ∀ u, Alike s u → f u = f s)
    (hf : Leads (f s) s answer s₁) :
    Leads (get >>= f) s answer s₁ := by
  intro u hu
  have hget : (get : Step Session).run.run u = (.ok u, u) := rfl
  rw [run_bind_of_ok hget, hlook u hu]
  exact hf u hu

theorem leads_modify
    {change : Session → Session}
    (halike : ∀ u, Alike s u → Alike s₁ (change u)) :
    Leads (modify change) s (.ok ()) s₁ :=
  fun u hu => ⟨change u, rfl, halike u hu⟩

theorem deaf_pure
    (a : α) :
    Deaf (pure a) :=
  fun s => ⟨_, _, leads_pure a s⟩

theorem deaf_throw
    (message : String) :
    Deaf (throw message : Step α) :=
  fun s => ⟨_, _, leads_throw message s⟩

theorem Deaf.bind
    (hx : Deaf x)
    (hf : ∀ a, Deaf (f a)) :
    Deaf (x >>= f) := by
  intro s
  obtain ⟨answer, s₁, hs₁⟩ := hx s
  cases answer with
  | error message =>
      exact ⟨_, _, hs₁.bind_error⟩
  | ok a =>
      obtain ⟨answer, s₂, hs₂⟩ := hf a s₁
      exact ⟨_, _, hs₁.bind hs₂⟩

theorem deaf_get
    {f : Session → Step β}
    (hlook : ∀ s u, Alike s u → f u = f s)
    (hf : ∀ s, Deaf (f s)) :
    Deaf (get >>= f) := by
  intro s
  obtain ⟨answer, s₁, hs₁⟩ := hf s s
  exact ⟨_, _, leads_get (hlook s) hs₁⟩

end Sequences

/-! ## What the steps do -/

section Steps

variable (t : Task) (language : Option Language) (s : Session)

theorem leads_complain
    (line : String) :
    Leads (complain line) s (.ok ()) s :=
  leads_modify fun _ hu => ⟨hu.files, hu.input, hu.out, hu.history, hu.written⟩

theorem leads_complainLines
    (lines : List String) :
    Leads (complainLines lines) s (.ok ()) s := by
  induction lines with
  | nil =>
      exact leads_pure () s
  | cons line rest ih =>
      exact (leads_complain s line).bind ih

theorem leads_complainAll
    (failures : List (Path × AnalysisError)) :
    Leads (complainAll failures) s (.ok ()) s := by
  induction failures with
  | nil =>
      exact leads_pure () s
  | cons failure rest ih =>
      exact (leads_complain s _).bind ih

theorem leads_perform
    {α : Type}
    (x : Logged α) :
    Leads (perform t x) s (.ok (x.value ⟨t.now, none⟩)) s := by
  intro u hu
  obtain ⟨events, ready, hrun⟩ := run_perform t x u
  exact ⟨_, hrun, hu.files, hu.input, hu.out, hu.history, hu.written⟩

theorem leads_print
    (text : String) :
    Leads (print text) s (.ok ()) { s with out := s.out ++ text } :=
  leads_modify fun _ hu =>
    ⟨hu.files, hu.input, congrArg (· ++ text) hu.out, hu.history, hu.written⟩

theorem leads_record
    (a : Analysis) :
    Leads (record a) s (.ok ())
      { s with history := (s.history.record ⟨a.source, a.language, a.timestamp⟩).1 } := by
  refine leads_modify fun u hu => ⟨hu.files, hu.input, hu.out, ?_, hu.written⟩
  rw [hu.history]

theorem leads_noteWritten
    (files : FileTree) (p : Path) (content : String) :
    Leads (noteWritten files p content) s (.ok ())
      { s with files := files, written := (p, content) :: s.written } :=
  leads_modify fun _ hu =>
    ⟨rfl, hu.input, hu.out, hu.history, congrArg ((p, content) :: ·) hu.written⟩

theorem deaf_orFail
    {ε α : Type}
    (message : ε → String) (result : Except ε α) :
    Deaf (orFail message result) := by
  cases result with
  | ok a =>
      exact deaf_pure a
  | error e =>
      exact deaf_throw (message e)

theorem deaf_perform
    {α : Type}
    (x : Logged α) :
    Deaf (perform t x) :=
  fun s => ⟨_, _, leads_perform t s x⟩

theorem deaf_complain
    (line : String) :
    Deaf (complain line) :=
  fun s => ⟨_, _, leads_complain s line⟩

theorem deaf_noteWritten
    (files : FileTree) (p : Path) (content : String) :
    Deaf (noteWritten files p content) :=
  fun s => ⟨_, _, leads_noteWritten s files p content⟩

theorem deaf_writeReport
    (a : Analysis) (p : Path) :
    Deaf (writeReport t a p) := by
  refine deaf_get (fun s u hu => by rw [hu.files]) fun s => ?_
  exact (deaf_perform t _).bind fun _ => (deaf_orFail _ _).bind fun _ =>
    (deaf_noteWritten _ _ _).bind fun _ => deaf_complain _

theorem deaf_downloadReport
    (label : String) (a : Analysis) (directory : Path) :
    Deaf (downloadReport t label a directory) := by
  refine deaf_get (fun s u hu => by rw [hu.files]) fun s => ?_
  exact (deaf_perform t _).bind fun _ => (deaf_orFail _ _).bind fun _ =>
    (deaf_noteWritten _ _ _).bind fun _ => deaf_complain _

theorem deaf_deliver
    (label : String) (a : Analysis) :
    Deaf (deliver t label a) := by
  refine Deaf.bind (fun s => ⟨_, _, leads_record s a⟩) fun _ => ?_
  cases t.arguments.output with
  | some file =>
      exact deaf_writeReport t a ⟨file⟩
  | none =>
      cases t.arguments.download with
      | some directory =>
          exact deaf_downloadReport t label a ⟨directory⟩
      | none =>
          simp only
          split
          · exact fun s => ⟨_, _, leads_print s _⟩
          · exact fun s => ⟨_, _, leads_print s _⟩

theorem deaf_deliverAll
    (successes : List (Path × Analysis)) :
    Deaf (deliverAll t successes) := by
  induction successes with
  | nil =>
      exact deaf_pure ()
  | cons success rest ih =>
      exact (deaf_deliver t _ _).bind fun _ => ih

/-- The first to take the standard input gets all of it. -/
theorem leads_takeInput :
    Leads takeInput s
      (match String.fromUTF8? s.input with
        | some text => .ok text
        | none => .error SystemError.badText.message)
      { s with input := ByteArray.empty } := by
  intro u hu
  refine ⟨{ u with input := ByteArray.empty }, ?_, hu.files, rfl, hu.out,
    hu.history, hu.written⟩
  rw [← hu.input]
  have hget : (get : Step Session).run.run u = (.ok u, u) := rfl
  rw [takeInput, run_bind_of_ok hget]
  cases String.fromUTF8? u.input <;> rfl

theorem deaf_analyzeInput :
    Deaf (analyzeInput t language) := by
  cases language with
  | none =>
      exact deaf_throw _
  | some l =>
      exact Deaf.bind (fun s => ⟨_, _, leads_takeInput s⟩) fun _ =>
        (deaf_perform t _).bind fun _ => (deaf_deliver t _ _).bind fun _ => deaf_pure true

theorem deaf_analyzeFile
    (p : Path) :
    Deaf (analyzeFile t language p) := by
  refine deaf_get (fun s u hu => by rw [hu.files]) fun s => ?_
  refine (deaf_perform t _).bind fun result => ?_
  cases result with
  | ok a =>
      exact (deaf_deliver t _ _).bind fun _ => deaf_pure true
  | error e =>
      exact (deaf_perform t _).bind fun _ => (deaf_complain _).bind fun _ =>
        deaf_pure false

theorem deaf_analyzeDirectory
    (p : Path) :
    Deaf (analyzeDirectory t language p) := by
  refine deaf_get (fun s u hu => by rw [hu.files]) fun s => ?_
  refine (deaf_perform t _).bind fun result => (deaf_orFail _ _).bind fun results => ?_
  refine (deaf_deliverAll t _).bind fun _ => ?_
  refine Deaf.bind (fun s => ⟨_, _, leads_complainAll s _⟩) fun _ => ?_
  refine (deaf_complain _).bind fun _ => ?_
  simp only
  split
  · exact (deaf_perform t _).bind fun _ => deaf_pure _
  · exact deaf_pure _

theorem deaf_analyzeOne
    (text : String) :
    Deaf (analyzeOne t language text) := by
  refine deaf_get (fun s u hu => by rw [hu.files]) fun s => ?_
  split
  · exact deaf_analyzeInput t language
  · split
    · exact deaf_analyzeDirectory t language ⟨text⟩
    · exact deaf_analyzeFile t language ⟨text⟩

/-- What inputs come to does not depend on messages. -/
theorem deaf_analyzeAll
    (texts : List String) :
    Deaf (analyzeAll t language texts) := by
  induction texts with
  | nil =>
      exact deaf_pure true
  | cons text rest ih =>
      exact (deaf_analyzeOne t language text).bind fun _ => ih.bind fun _ => deaf_pure _

end Steps

end Session
end TableLexer
