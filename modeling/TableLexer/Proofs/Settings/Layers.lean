import TableLexer.Settings

/-!
# Layers of settings

A setting is resolved by three layers: the document, the environment, and what is built in
(`parse_resolves_each`).

The layers do not meet at one place.  A section that the document does not have is taken
whole from the settings of the environment, and a section that it has is read over the
settings of the environment once more.  So both ways are shown to give each setting of the
section the value of the document or else that of the environment (`scan_eq`, `files_eq`,
`log_eq`); what else is in the document, and in which order, is not seen.
-/

namespace TableLexer

/-- The names of the settings, each with the kind of its values. -/
inductive SettingName : Type → Type where
  | countNewlines : SettingName Bool
  | logMetrics : SettingName Bool
  | inferLanguage : SettingName Bool
  | structured : SettingName Bool
  | console : SettingName Bool
  | threshold : SettingName Level

/-- A value for each of the settings that are given one. -/
abbrev Assignment : Type 1 :=
  {α : Type} → SettingName α → Option α

namespace SettingName

variable {α : Type}

/-- The section of a document that the setting is in. -/
def part : SettingName α → String
  | countNewlines | logMetrics => "scan"
  | inferLanguage => "file_processor"
  | structured | console | threshold => "logging"

/-- The name of the setting in its section. -/
def key : SettingName α → String
  | countNewlines => "count_newlines_in_tokens"
  | logMetrics => "log_scan_metrics"
  | inferLanguage => "infer_language_from_extension"
  | structured => "use_structured_logging"
  | console => "enable_console_logging"
  | threshold => "min_log_level"

/-- The variable of the environment for the setting. -/
def variableName : SettingName α → String
  | countNewlines => "LEXSCAN_COUNT_NEWLINES_IN_TOKENS"
  | logMetrics => "LEXSCAN_LOG_SCAN_METRICS"
  | inferLanguage => "LEXSCAN_INFER_LANGUAGE"
  | structured => "LEXSCAN_LOGGING_USE_STRUCTURED"
  | console => "LEXSCAN_LOGGING_ENABLE_CONSOLE"
  | threshold => "LEXSCAN_LOGGING_MIN_LEVEL"

/-- The value that is built in. -/
def builtin : SettingName α → α
  | countNewlines => false
  | logMetrics => true
  | inferLanguage => true
  | structured => false
  | console => true
  | threshold => .warning

/-- The value of the setting among all settings. -/
def value : SettingName α → Settings → α
  | countNewlines, s => s.scan.countNewlines
  | logMetrics, s => s.scan.logMetrics
  | inferLanguage, s => s.files.inferLanguage
  | structured, s => s.log.structured
  | console, s => s.log.console
  | threshold, s => s.log.threshold

/-- The values that a variable has for a flag. -/
def flagOfText? (text : String) : Option Bool :=
  if text = "true" then some true
  else if text = "false" then some false
  else none

/-- What the text of a variable means for the setting. -/
def ofText? : SettingName α → String → Option α
  | countNewlines | logMetrics | inferLanguage | structured | console => flagOfText?
  | threshold => Level.parse?

/-- What the environment says of the setting. -/
def inEnvironment? (env : Environment) (x : SettingName α) : Option α :=
  (env.value? x.variableName).bind x.ofText?

end SettingName

/-- The ways to write a level in a document: its name, or a table with its name for the
first key, which is the only one between braces. -/
inductive SpellsLevel : Toml → Level → Prop where
  | name (l : Level) : SpellsLevel (.string l.name) l
  | key (origin : TableOrigin) (l : Level) (v : Toml) (rest : List (String × Toml))
      (hunit : Settings.isUnit v) (honly : origin = .inline → rest = []) :
      SpellsLevel (.table origin ((l.name, v) :: rest)) l

namespace SettingName

variable {α : Type}

/-- The ways to write a value of the setting in a document. -/
def Spells : SettingName α → Toml → α → Prop
  | countNewlines | logMetrics | inferLanguage | structured | console =>
    fun v b => v = .boolean b
  | threshold => SpellsLevel

/-- What a document has for the setting. -/
def entry? (document : List (String × Toml)) (x : SettingName α) : Option Toml :=
  match Toml.get? x.part document with
  | some (.table _ entries) => Toml.get? x.key entries
  | _ => none

end SettingName

/-- The document gives these settings their values, and leaves out all others.  Sections
are tables, however they came to be. -/
structure Assignment.InDocument
    (values : Assignment)
    (document : List (String × Toml)) :
    Prop where
  sections : ∀ name ∈ ["scan", "file_processor", "logging"], ∀ v,
    Toml.get? name document = some v → ∃ origin entries, v = .table origin entries
  spells : ∀ {α : Type} (x : SettingName α),
    Option.Rel x.Spells (x.entry? document) (values x)

/-- The settings with the given values, and with others where none is given. -/
def Assignment.over
    (values : Assignment)
    (fallback : Settings) :
    Settings where
  scan :=
    ⟨(values .countNewlines).getD fallback.scan.countNewlines,
      (values .logMetrics).getD fallback.scan.logMetrics⟩
  files :=
    ⟨(values .inferLanguage).getD fallback.files.inferLanguage⟩
  log :=
    ⟨(values .structured).getD fallback.log.structured,
      (values .console).getD fallback.log.console,
      (values .threshold).getD fallback.log.threshold⟩

theorem Assignment.value_over
    {α : Type}
    (values : Assignment)
    (fallback : Settings)
    (x : SettingName α) :
    x.value (values.over fallback) = (values x).getD (x.value fallback) := by
  cases x <;> rfl

/-! ## The environment -/

theorem Environment.flag?_eq_bind
    (env : Environment)
    (name : String) :
    env.flag? name = (env.value? name).bind SettingName.flagOfText? := by
  rw [Environment.flag?]
  split
  · next h =>
      rw [h]
      rfl
  · next h =>
      rw [h]
      rfl
  · next htrue hfalse =>
      cases h : env.value? name with
      | none =>
          rfl
      | some text =>
          rw [Option.bind_some, SettingName.flagOfText?, if_neg, if_neg]
          · exact fun heq => hfalse (heq ▸ h)
          · exact fun heq => htrue (heq ▸ h)

/-- Without a document, a setting is what the environment says of it, or else what is built
in. -/
theorem SettingName.value_ofEnvironment
    {α : Type}
    (env : Environment)
    (x : SettingName α) :
    x.value (Settings.ofEnvironment env) = (x.inEnvironment? env).getD x.builtin := by
  cases x with
  | threshold =>
      rfl
  | _ =>
      exact congrArg (Option.getD · _) (env.flag?_eq_bind _)

/-! ## The document -/

theorem Level.ofName?_name
    (l : Level) :
    Level.ofName? l.name = some l := by
  cases l <;> decide

theorem Settings.flag?_of_spells
    {entry : Option Toml}
    {given : Option Bool}
    (fallback : Bool)
    (h : Option.Rel (fun v b => v = .boolean b) entry given) :
    Settings.flag? fallback entry = some (given.getD fallback) := by
  cases h with
  | none =>
      rfl
  | some h =>
      rw [h]
      rfl

theorem Settings.level?_of_spells
    {entry : Option Toml}
    {given : Option Level}
    (fallback : Level)
    (h : Option.Rel SpellsLevel entry given) :
    Settings.level? fallback entry = some (given.getD fallback) := by
  cases h with
  | none =>
      rfl
  | @some v l h =>
      cases h with
      | name =>
          exact Level.ofName?_name l
      | key origin _ v rest hunit honly =>
          have hlevel : (if Settings.isUnit v then Level.ofName? l.name else none) =
              some l := by
            rw [if_pos hunit, Level.ofName?_name]
          cases origin with
          | inline =>
              rw [honly rfl]
              exact hlevel
          | _ =>
              exact hlevel

namespace Assignment.InDocument

variable {values : Assignment} {document : List (String × Toml)}

/-- A section is missing, and then taken whole, or it is a table, and then read. -/
theorem sectionOf?_eq
    (h : values.InDocument document)
    {β : Type}
    {whole resolved : β}
    {read? : Toml → Option β}
    {name : String}
    (hname : name ∈ ["scan", "file_processor", "logging"])
    (hmissing : Toml.get? name document = none → whole = resolved)
    (htable : ∀ origin entries,
      Toml.get? name document = some (.table origin entries) →
        read? (.table origin entries) = some resolved) :
    Settings.sectionOf? whole read? name document = some resolved := by
  rw [Settings.sectionOf?]
  cases hget : Toml.get? name document with
  | none =>
      exact congrArg some (hmissing hget)
  | some v =>
      obtain ⟨origin, entries, rfl⟩ := h.sections name hname v hget
      exact htable origin entries hget

theorem value_eq_none
    (h : values.InDocument document)
    {α : Type}
    (x : SettingName α)
    (hmissing : Toml.get? x.part document = none) :
    values x = none := by
  have hspells := h.spells x
  rw [SettingName.entry?, hmissing] at hspells
  generalize values x = given at hspells
  cases hspells
  rfl

theorem spells_of_table
    (h : values.InDocument document)
    {α : Type}
    (x : SettingName α)
    {origin : TableOrigin}
    {entries : List (String × Toml)}
    (htable : Toml.get? x.part document = some (.table origin entries)) :
    Option.Rel x.Spells (Toml.get? x.key entries) (values x) := by
  have hspells := h.spells x
  rw [SettingName.entry?, htable] at hspells
  exact hspells

variable (env : Environment)

theorem scan_eq
    (h : values.InDocument document) :
    Settings.sectionOf? (.ofEnvironment env) (Settings.scanOf? env) "scan" document
      =
    some (values.over (.ofEnvironment env)).scan := by
  apply h.sectionOf?_eq (by decide)
  · intro hmissing
    rw [Assignment.over, h.value_eq_none .countNewlines hmissing,
      h.value_eq_none .logMetrics hmissing]
    rfl
  · intro origin entries htable
    have hnewlines :=
      Settings.flag?_of_spells (ScanSettings.ofEnvironment env).countNewlines
      (h.spells_of_table .countNewlines htable)
    have hmetrics := Settings.flag?_of_spells (ScanSettings.ofEnvironment env).logMetrics
      (h.spells_of_table .logMetrics htable)
    simp only [SettingName.key] at hnewlines hmetrics
    simp only [Settings.scanOf?, Settings.sectionValues?, Option.bind_eq_bind,
      Option.bind_some, hnewlines, hmetrics]
    rfl

theorem files_eq
    (h : values.InDocument document) :
    Settings.sectionOf? (.ofEnvironment env) (Settings.filesOf? env)
      "file_processor" document
      =
    some (values.over (.ofEnvironment env)).files := by
  apply h.sectionOf?_eq (by decide)
  · intro hmissing
    rw [Assignment.over, h.value_eq_none .inferLanguage hmissing]
    rfl
  · intro origin entries htable
    have hinfer := Settings.flag?_of_spells (FileSettings.ofEnvironment env).inferLanguage
      (h.spells_of_table .inferLanguage htable)
    simp only [SettingName.key] at hinfer
    simp only [Settings.filesOf?, Settings.sectionValues?, Option.bind_eq_bind,
      Option.bind_some, hinfer]
    rfl

theorem log_eq
    (h : values.InDocument document) :
    Settings.sectionOf? (.ofEnvironment env) (Settings.logOf? env) "logging" document
      =
    some (values.over (.ofEnvironment env)).log := by
  apply h.sectionOf?_eq (by decide)
  · intro hmissing
    rw [Assignment.over, h.value_eq_none .structured hmissing,
      h.value_eq_none .console hmissing, h.value_eq_none .threshold hmissing]
    rfl
  · intro origin entries htable
    have hstructured := Settings.flag?_of_spells (LogSettings.ofEnvironment env).structured
      (h.spells_of_table .structured htable)
    have hconsole := Settings.flag?_of_spells (LogSettings.ofEnvironment env).console
      (h.spells_of_table .console htable)
    have hthreshold := Settings.level?_of_spells (LogSettings.ofEnvironment env).threshold
      (h.spells_of_table .threshold htable)
    simp only [SettingName.key] at hstructured hconsole hthreshold
    simp only [Settings.logOf?, Settings.sectionValues?, Option.bind_eq_bind,
      Option.bind_some, hstructured, hconsole, hthreshold]
    rfl

theorem ofDocument?_eq
    (h : values.InDocument document) :
    Settings.ofDocument? env document = some (values.over (.ofEnvironment env)) := by
  have hscan := h.scan_eq env
  have hfiles := h.files_eq env
  have hlog := h.log_eq env
  simp only [Settings.ofDocument?, Settings.ofEnvironment, Option.bind_eq_bind]
    at hscan hfiles hlog ⊢
  rw [hscan, hfiles, hlog]
  rfl

end Assignment.InDocument

/-! ## All layers -/

namespace Settings

/-- A text without characters is a document without sections. -/
theorem parse_empty
    (env : Environment) :
    parse env "" = .ok (ofEnvironment env) := rfl

/-- Every setting is resolved by itself.  Whatever else the document holds, it is loaded,
and a setting has the value that the document gives it, or else the value of its variable,
if that means one, or else the value that is built in.  So a setting that the document does
not give has the value that it has by an empty document. -/
theorem parse_resolves_each
    (env : Environment)
    (text : String)
    (document : List (String × Toml))
    (values : Assignment)
    (hread : Toml.read? text = some document)
    (hgives : values.InDocument document) :
    ∃ s, parse env text = .ok s ∧
      (∀ {α : Type} (x : SettingName α),
        x.value s = ((values x).or (x.inEnvironment? env)).getD x.builtin) ∧
      parse env "" = .ok (ofEnvironment env) ∧
      ∀ {α : Type} (x : SettingName α),
        values x = none → x.value s = x.value (ofEnvironment env) := by
  have hparse : parse env text = .ok (values.over (ofEnvironment env)) := by
    rw [parse, hread, Option.bind_some, hgives.ofDocument?_eq env]
  refine ⟨_, hparse, ?_, parse_empty env, ?_⟩
  · intro α x
    rw [Assignment.value_over, SettingName.value_ofEnvironment]
    cases values x <;> rfl
  · intro α x hnone
    rw [Assignment.value_over, hnone, Option.getD_none]

/-- Two settings in sections out of order, among entries that are no settings, over
variables of which one has no value that counts. -/
theorem parse_resolves_each_partial :
    let env : Environment :=
      [("LEXSCAN_LOG_SCAN_METRICS", "true"), ("LEXSCAN_INFER_LANGUAGE", "False"),
       ("LEXSCAN_LOGGING_ENABLE_CONSOLE", "false"), ("LEXSCAN_LOGGING_MIN_LEVEL", "0")]
    let text :=
      "# a\n[logging]\nmin_log_level = 'debug'\nhue = 1\n[more]\n[scan]\nlog_scan_metrics = false"
    let document : List (String × Toml) :=
      [("logging", .table .header
         [("min_log_level", .string "debug"), ("hue", .integer 1)]),
       ("more", .table .header []),
       ("scan", .table .header [("log_scan_metrics", .boolean false)])]
    let values : Assignment := fun
      | .logMetrics => some false
      | .threshold => some .debug
      | _ => none
    Toml.read? text = some document ∧
    values.InDocument document ∧
    ∃ s, parse env text = .ok s ∧
      SettingName.countNewlines.value s = false ∧
      SettingName.logMetrics.value s = false ∧
      SettingName.inferLanguage.value s = true ∧
      SettingName.structured.value s = false ∧
      SettingName.console.value s = false ∧
      SettingName.threshold.value s = .debug := by
  intro env text document values
  have hread : Toml.read? text = some document := by
    decide +kernel
  have hgives : values.InDocument document := by
    constructor
    · intro name hname v hv
      simp only [List.mem_cons, List.not_mem_nil, or_false] at hname
      rcases hname with rfl | rfl | rfl
      · exact ⟨_, _, (Option.some.inj hv).symm⟩
      · cases hv
      · exact ⟨_, _, (Option.some.inj hv).symm⟩
    · intro α x
      cases x with
      | logMetrics =>
          exact .some rfl
      | threshold =>
          exact .some (.name .debug)
      | _ =>
          exact .none
  obtain ⟨s, hparse, hvalue, -⟩ :=
    parse_resolves_each env text document values hread hgives
  exact ⟨hread, hgives, s, hparse, hvalue .countNewlines, hvalue .logMetrics,
    hvalue .inferLanguage, hvalue .structured, hvalue .console, hvalue .threshold⟩

end Settings
end TableLexer
