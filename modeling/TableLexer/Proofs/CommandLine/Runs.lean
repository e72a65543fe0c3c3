import TableLexer.Proofs.CommandLine.Steps

/-!
# From inputs to runs

A run opens with messages, takes its settings and its language from the arguments, takes
the inputs in their order, and closes with the listing of the history if that is asked for.
All but the inputs leaves a session as it was, apart from messages, unless an output file
is named.  So a run comes to what its inputs come to (`leads_run`), or it is refused before
the first of them (`leads_run_of_refused`).
-/

namespace TableLexer
namespace Session

/-- The settings that hold for the arguments, or why there are none. -/
def settingsFor
    (setting : Setting) (a : Arguments) (files : FileTree) :
    Except String Settings :=
  match a.config with
  | none => .ok (.ofEnvironment setting.environment)
  | some file =>
    match Settings.load setting.environment files ⟨file⟩ with
    | .ok settings => .ok settings
    | .error e => .error e.message

/-- The language that the arguments name, or why it is none. -/
def languageFor
    (a : Arguments) :
    Except String (Option Language) :=
  match a.language with
  | none => .ok none
  | some identifier =>
    match Language.parse identifier with
    | .ok l => .ok (some l)
    | .error e => .error e.message

/-- What a run does before it takes inputs. -/
def opening (t : Task) : Step (Option Language) := do
  perform t
    (Logged.success .initializationCompleted "Global logging system initialized" [])
  perform t (Logged.say .info "lexscan starting"
    [("inputs", toString t.arguments.inputs.length)])
  let problems ← perform t Table.validateAllLogged
  complainLines (problems.map fun e => "Warning: " ++ e.message)
  let language ← languageOf t
  checkOutput t
  return language

/-- What a run does when it has taken its inputs. -/
def closing (t : Task) (ok : Bool) : Step Bool := do
  if t.arguments.history then
    let s ← get
    complainLines s.history.listing
  return ok

theorem work_eq
    (t : Task) :
    work t
      =
    (do
      let language ← opening t
      let ok ← analyzeAll t language t.arguments.inputs
      closing t ok) := by
  simp [work, opening, closing]

variable {setting : Setting} {a : Arguments} {s s' : Session}

theorem leads_settingsOf
    (setting : Setting) (a : Arguments) (s : Session) :
    Leads (settingsOf setting a) s (settingsFor setting a s.files) s := by
  refine leads_get (fun u hu => by rw [hu.files]) ?_
  unfold settingsFor
  cases a.config with
  | none =>
      exact leads_pure _ s
  | some file =>
      simp only
      cases Settings.load setting.environment s.files ⟨file⟩ with
      | ok settings =>
          exact leads_pure _ s
      | error e =>
          exact leads_throw _ s

theorem leads_languageOf
    (t : Task) (s : Session) :
    Leads (languageOf t) s (languageFor t.arguments) s := by
  unfold languageOf languageFor
  cases t.arguments.language with
  | none =>
      exact leads_pure _ s
  | some identifier =>
      simp only
      cases Language.parse identifier with
      | ok l =>
          exact (leads_pure l s).bind (leads_pure _ s)
      | error e =>
          exact (leads_throw _ s).bind_error

theorem leads_opening
    {t : Task}
    (houtput : t.arguments.output = none)
    (s : Session) :
    Leads (opening t) s (languageFor t.arguments) s := by
  have hcheck : Leads (checkOutput t) s (.ok ()) s := by
    refine leads_get (fun u hu => by rw [hu.files]) ?_
    rw [houtput]
    exact leads_pure () s
  have hlanguage := leads_languageOf t s
  refine (leads_perform t s _).bind ((leads_perform t s _).bind ?_)
  refine (leads_perform t s _).bind ((leads_complainLines s _).bind ?_)
  cases hfor : languageFor t.arguments with
  | ok language =>
      rw [hfor] at hlanguage
      exact hlanguage.bind (hcheck.bind (leads_pure language s))
  | error message =>
      rw [hfor] at hlanguage
      exact hlanguage.bind_error

theorem leads_closing
    (t : Task) (ok : Bool) (s : Session) :
    Leads (closing t ok) s (.ok ok) s := by
  unfold closing
  cases t.arguments.history with
  | false =>
      exact leads_pure ok s
  | true =>
      refine leads_get (fun u hu => by rw [hu.history]) ?_
      exact (leads_complainLines s _).bind (leads_pure ok s)

/-- The settings and the language of a run, or why it takes no input. -/
def prepare
    (setting : Setting) (a : Arguments) (files : FileTree) :
    Except String (Settings × Option Language) := do
  let settings ← settingsFor setting a files
  let language ← languageFor a
  return (settings, language)

/-- What is done for the arguments under the settings. -/
def taskFor (setting : Setting) (a : Arguments) (settings : Settings) : Task :=
  ⟨a, settings, setting.now, setting.processors⟩

theorem prepare_eq_ok
    {files : FileTree} {settings : Settings} {language : Option Language}
    (h : prepare setting a files = .ok (settings, language)) :
    settingsFor setting a files = .ok settings ∧ languageFor a = .ok language := by
  unfold prepare at h
  cases hsettings : settingsFor setting a files with
  | error message =>
      rw [hsettings] at h
      cases h
  | ok settings' =>
      cases hlanguage : languageFor a with
      | error message =>
          rw [hsettings, hlanguage] at h
          cases h
      | ok language' =>
          rw [hsettings, hlanguage] at h
          cases h
          exact ⟨rfl, rfl⟩

/-- A run comes to what its inputs come to. -/
theorem leads_run
    {settings : Settings} {language : Option Language} {answer : Except String Bool}
    (houtput : a.output = none)
    (hprepare : prepare setting a s.files = .ok (settings, language))
    (h : Leads (analyzeAll (taskFor setting a settings) language a.inputs) s answer s') :
    Leads (run setting a) s answer s' := by
  obtain ⟨hsettings, hlanguage⟩ := prepare_eq_ok hprepare
  have hopening := @leads_opening (taskFor setting a settings) houtput s
  have hload := leads_settingsOf setting a s
  rw [hsettings] at hload
  have hfor : languageFor (taskFor setting a settings).arguments = .ok language :=
    hlanguage
  rw [hfor] at hopening
  refine hload.bind ?_
  change Leads (work (taskFor setting a settings)) s answer s'
  rw [work_eq]
  refine hopening.bind ?_
  cases answer with
  | error message =>
      exact h.bind_error
  | ok ok =>
      exact h.bind (leads_closing _ ok s')

/-- A run without settings or without language changes nothing. -/
theorem leads_run_of_refused
    {message : String}
    (houtput : a.output = none)
    (hprepare : prepare setting a s.files = .error message) :
    Leads (run setting a) s (.error message) s := by
  have hload := leads_settingsOf setting a s
  unfold prepare at hprepare
  cases hsettings : settingsFor setting a s.files with
  | error m =>
      rw [hsettings] at hprepare hload
      cases hprepare
      exact hload.bind_error
  | ok settings =>
      rw [hsettings] at hprepare hload
      refine hload.bind ?_
      change Leads (work (taskFor setting a settings)) s (.error message) s
      rw [work_eq]
      have hopening := @leads_opening (taskFor setting a settings) houtput s
      cases hlanguage : languageFor a with
      | ok language =>
          rw [hlanguage] at hprepare
          cases hprepare
      | error m =>
          rw [hlanguage] at hprepare
          cases hprepare
          have hfor : languageFor (taskFor setting a settings).arguments =
              .error message :=
            hlanguage
          rw [hfor] at hopening
          exact hopening.bind_error

/-- The exit status: success only if every input went well. -/
def statusOf : Except String Bool → Nat
  | .ok true => 0
  | _ => 1

theorem finish_of_leads
    {answer : Except String Bool}
    (h : Leads (run setting a) s answer s') :
    (finish setting a s).1 = statusOf answer ∧ Alike s' (finish setting a s).2 := by
  obtain ⟨u, hrun, hu⟩ := h s (Alike.refl s)
  unfold finish
  rw [hrun]
  cases answer with
  | error message =>
      exact ⟨rfl, hu.files, hu.input, hu.out, hu.history, hu.written⟩
  | ok ok =>
      cases ok with
      | false =>
          exact ⟨rfl, hu⟩
      | true =>
          exact ⟨rfl, hu⟩

theorem finish_of_refused
    {message : String}
    (houtput : a.output = none)
    (hprepare : prepare setting a s.files = .error message) :
    (finish setting a s).1 = 1 ∧ Alike s (finish setting a s).2 :=
  finish_of_leads (leads_run_of_refused houtput hprepare)

theorem finish_of_inputs
    {settings : Settings} {language : Option Language} {answer : Except String Bool}
    (houtput : a.output = none)
    (hprepare : prepare setting a s.files = .ok (settings, language))
    (h : Leads (analyzeAll (taskFor setting a settings) language a.inputs) s answer s') :
    (finish setting a s).1 = statusOf answer ∧ Alike s' (finish setting a s).2 :=
  finish_of_leads (leads_run houtput hprepare h)

/-- Inputs in two parts are taken one part after the other. -/
theorem analyzeAll_append
    (t : Task) (language : Option Language)
    (before after : List String) :
    analyzeAll t language (before ++ after)
      =
    (do
      let ok ← analyzeAll t language before
      let others ← analyzeAll t language after
      return ok && others) := by
  induction before with
  | nil =>
      simp only [List.nil_append, analyzeAll, pure_bind, Bool.true_and, bind_pure]
  | cons text before ih =>
      simp only [List.cons_append, analyzeAll, ih, bind_assoc, pure_bind, Bool.and_assoc]

section Inputs

variable {t : Task} {language : Option Language}
variable {text : String} {before after : List String}
variable {s₁ s₂ : Session} {answer : Except String Bool} {ok : Bool} {message : String}

theorem leads_analyzeAll_cons
    (hone : Leads (analyzeOne t language text) s (.ok ok) s₁)
    (hrest : Leads (analyzeAll t language after) s₁ answer s₂) :
    Leads (analyzeAll t language (text :: after)) s (answer.map (ok && ·)) s₂ := by
  refine hone.bind ?_
  cases answer with
  | error message =>
      exact hrest.bind_error
  | ok others =>
      exact hrest.bind (leads_pure _ s₂)

theorem leads_analyzeAll_cons_of_error
    (hone : Leads (analyzeOne t language text) s (.error message) s₁)
    (after : List String) :
    Leads (analyzeAll t language (text :: after)) s (.error message) s₁ :=
  hone.bind_error

theorem leads_analyzeAll_append
    (hbefore : Leads (analyzeAll t language before) s (.ok ok) s₁)
    (hafter : Leads (analyzeAll t language after) s₁ answer s₂) :
    Leads (analyzeAll t language (before ++ after)) s (answer.map (ok && ·)) s₂ := by
  rw [analyzeAll_append]
  refine hbefore.bind ?_
  cases answer with
  | error message =>
      exact hafter.bind_error
  | ok others =>
      exact hafter.bind (leads_pure _ s₂)

/-- Behind an error no input is taken. -/
theorem leads_analyzeAll_of_error
    (hbefore : Leads (analyzeAll t language before) s (.error message) s₁)
    (after : List String) :
    Leads (analyzeAll t language (before ++ after)) s (.error message) s₁ := by
  rw [analyzeAll_append]
  exact hbefore.bind_error

end Inputs

end Session
end TableLexer
