import TableLexer.CommandLine.Session
import TableLexer.Proofs.Batch.Agreement
import TableLexer.Proofs.Files.Answers

/-!
# The checks of a file

Six things can stand against the analysis of a file.  Here each of them is said on its
own, in terms of the file tree, the path and what is asked for, whether the others hold
or not (`Pipeline.objections`).  The analysis of a file fails with the first objection,
and without one it is the analysis of the text of the file (`analyzeFile_checks`).

The same is said of a file about which the system may answer anything
(`Pipeline.objectionsFrom`).  There is one objection more then: a file can be looked up
and yet not be read.  In a tree that objection always comes behind another one
(`SourceFile.findSome?_objections_ofTree`), so what holds of answers holds of trees.

Taking a file in knows all objections but the last one (`SourceFile.loadFrom_cases`);
that is left to the pipeline, because only then is the language needed.
-/

namespace TableLexer

/-- What is read as text is written as the same bytes. -/
theorem toUTF8_of_fromUTF8?
    {bytes : ByteArray} {s : String}
    (h : String.fromUTF8? bytes = some s) :
    s.toUTF8 = bytes := by
  unfold String.fromUTF8? at h
  split at h
  · cases h
    rfl
  · cases h

namespace SourceFile

variable (intake : Intake) (root : FileTree) (p : Path)

/-- Nothing can be looked up at the path. -/
def lookupObjection : Option SourceError :=
  match root.get p with
  | .error e => some (.ofSystem p e)
  | .ok _ => none

/-- The path leads to something that is no regular file. -/
def kindObjection : Option SourceError :=
  if root.hasFolder p then some (.io (p.text ++ " is not a regular file")) else none

/-- Only known extensions are accepted, and the path has none of them. -/
def extensionObjection : Option SourceError :=
  if intake.requireExtension ∧ ¬ (extensionOf p).any isSupportedExtension then
    some (.unsupportedExtension (extensionOf p))
  else none

/-- The file at the path has more bytes than a source file may have; the message of the
error tells both numbers. -/
def sizeObjection : Option SourceError :=
  (root.readBytes p).toOption.bind fun content =>
    if maxSourceBytes < content.size then some (.tooLarge content.size) else none

/-- The file at the path is no text. -/
def textObjection : Option SourceError :=
  (root.readBytes p).toOption.bind fun content =>
    if String.fromUTF8? content = none then some (.invalidEncoding p.text) else none

/-- What can stand against taking in the file at a path, in the order of importance. -/
def objections : List (Option SourceError) :=
  [lookupObjection root p, kindObjection root p, extensionObjection intake p,
    sizeObjection root p, textObjection root p]

section Answers

variable (answers : FileAnswers)

/-- The system finds no file to tell about. -/
def lookupObjectionFrom : Option SourceError :=
  match answers.size with
  | .error e => some e
  | .ok _ => none

/-- What the system finds is no regular file. -/
def kindObjectionFrom : Option SourceError :=
  match answers.size with
  | .ok none => some (.io (p.text ++ " is not a regular file"))
  | _ => none

/-- The system tells of more bytes than a source file may have; the message of the error
tells both numbers. -/
def sizeObjectionFrom : Option SourceError :=
  match answers.size with
  | .ok (some size) => if maxSourceBytes < size then some (.tooLarge size) else none
  | _ => none

/-- The system does not let the file be read. -/
def readObjectionFrom : Option SourceError :=
  match answers.bytes with
  | .error e => some e
  | .ok _ => none

/-- What is read is no text. -/
def textObjectionFrom : Option SourceError :=
  match answers.bytes with
  | .ok content =>
    if String.fromUTF8? content = none then some (.invalidEncoding p.text) else none
  | .error _ => none

/-- What can stand against taking in a file by the answers about it, in the order of
importance. -/
def objectionsFrom : List (Option SourceError) :=
  [lookupObjectionFrom answers, kindObjectionFrom p answers, extensionObjection intake p,
    sizeObjectionFrom answers, readObjectionFrom answers, textObjectionFrom p answers]

end Answers

/-- In a tree a file that can be looked up can be read. -/
theorem findSome?_objections_ofTree :
    (objectionsFrom intake p (.ofTree root p)).findSome? id
      =
    (objections intake root p).findSome? id := by
  unfold objectionsFrom objections FileAnswers.ofTree lookupObjection kindObjection
    sizeObjection textObjection FileTree.hasFolder FileTree.readBytes
  cases root.get p with
  | error e =>
      rfl
  | ok node =>
      cases node with
      | folder children =>
          rfl
      | file content =>
          simp only [lookupObjectionFrom, kindObjectionFrom, sizeObjectionFrom,
            readObjectionFrom, textObjectionFrom, FileTree.isFolder, Except.toOption,
            Option.bind_some, Bool.false_eq_true, if_false]
          cases extensionObjection intake p with
          | some e =>
              rfl
          | none =>
              split <;> rfl

theorem extensionObjection_eq :
    extensionObjection intake p
      =
    if intake.requireExtension && !hasSupportedExtension (extensionOf p) then
      some (.unsupportedExtension (extensionOf p))
    else none := by
  simp [extensionObjection, hasSupportedExtension]

/-- Either the first objection is the answer, or there is none and the file is taken in,
with the size that it was looked up with. -/
theorem loadFrom_cases
    (answers : FileAnswers)
    (scope : Scope) :
    (∃ e,
      (objectionsFrom intake p answers).findSome? id = some e ∧
      (loadFrom intake answers p).value scope = .error e) ∨
    (∃ size content source,
      (objectionsFrom intake p answers).findSome? id = none ∧
      answers.size = .ok (some size) ∧
      size ≤ maxSourceBytes ∧
      answers.bytes = .ok content ∧
      String.fromUTF8? content = some source ∧
      (loadFrom intake answers p).value scope
        =
      .ok ⟨p, size, extensionOf p, impliedLanguage intake (extensionOf p), source⟩) := by
  obtain ⟨size, bytes⟩ := answers
  unfold loadFrom
  rw [Logged.value_bind]
  simp only [objectionsFrom, lookupObjectionFrom, kindObjectionFrom, sizeObjectionFrom,
    readObjectionFrom, textObjectionFrom, extensionObjection_eq]
  cases size with
  | error e =>
      exact Or.inl ⟨e, rfl, rfl⟩
  | ok size =>
      cases size with
      | none =>
          exact Or.inl ⟨_, rfl, rfl⟩
      | some size =>
          simp only
          split
          · exact Or.inl ⟨_, rfl, rfl⟩
          · split
            · exact Or.inl ⟨_, rfl, rfl⟩
            · next hsize =>
                cases bytes with
                | error e =>
                    exact Or.inl ⟨e, rfl, rfl⟩
                | ok content =>
                    simp only [Except.bind]
                    cases htext : String.fromUTF8? content with
                    | none =>
                        exact Or.inl ⟨.invalidEncoding p.text, by simp, rfl⟩
                    | some source =>
                        right
                        exact ⟨size, content, source, by simp, rfl,
                          Nat.le_of_not_lt hsize, rfl, htext, rfl⟩

theorem ofTree_eq_ok
    {size : Nat} {content : ByteArray}
    (hsize : (FileAnswers.ofTree root p).size = .ok (some size))
    (hbytes : (FileAnswers.ofTree root p).bytes = .ok content) :
    root.readBytes p = .ok content ∧ size = content.size := by
  unfold FileAnswers.ofTree at hsize hbytes
  unfold FileTree.readBytes
  cases hget : root.get p with
  | error e =>
      rw [hget] at hsize
      cases hsize
  | ok node =>
      cases node with
      | folder children =>
          rw [hget] at hsize
          cases hsize
      | file bytes =>
          rw [hget] at hsize hbytes
          cases hsize
          cases hbytes
          exact ⟨rfl, rfl⟩

end SourceFile

/-- A computation that logs gives its answer, and of the session it changes nothing but
what has been said on the way. -/
theorem Session.run_perform
    {α : Type}
    (t : Task) (x : Logged α)
    (s : Session) :
    ∃ events ready,
      (Session.perform t x).run.run s
        =
      (.ok (x.value ⟨t.now, none⟩),
        { s with err := s.err ++ t.settings.log.lines events, tablesReady := ready }) :=
  ⟨_, _, rfl⟩

theorem Session.run_bind_of_ok
    {α β : Type}
    {x : Step α} {f : α → Step β}
    {s s' : Session} {a : α}
    (h : x.run.run s = (.ok a, s')) :
    (x >>= f).run.run s = (f a).run.run s' := by
  rw [ExceptT.run_bind, StateT.run_bind, h]
  rfl

namespace Pipeline

variable (pipeline : Pipeline) (root : FileTree) (path : Path) (language : Option Language)

/-- Neither is a language given, nor does the extension imply one. -/
def languageObjection : Option AnalysisError :=
  if language = none ∧
      (pipeline.files.inferLanguage = false ∨
        (SourceFile.extensionOf path).bind Language.ofExtension? = none) then
    some (.undetermined path.text)
  else none

/-- What can stand against the analysis of a file, in the order of importance. -/
def objections : List (Option AnalysisError) :=
  (SourceFile.objections (pipeline.intake language) root path).map (Option.map .source) ++
    [pipeline.languageObjection path language]

/-- What can stand against the analysis of a file by the answers about it, in the order of
importance. -/
def objectionsFrom (answers : FileAnswers) : List (Option AnalysisError) :=
  (SourceFile.objectionsFrom (pipeline.intake language) path answers).map
    (Option.map .source) ++
    [pipeline.languageObjection path language]

theorem findSome?_map_map
    {α β : Type}
    (f : α → β)
    (xs : List (Option α)) :
    (xs.map (Option.map f)).findSome? id = (xs.findSome? id).map f := by
  induction xs with
  | nil =>
      rfl
  | cons x xs ih =>
      cases x with
      | none =>
          simpa using ih
      | some a =>
          rfl

theorem findSome?_objectionsFrom
    (answers : FileAnswers) :
    (pipeline.objectionsFrom path language answers).findSome? id
      =
    (((SourceFile.objectionsFrom (pipeline.intake language) path answers).findSome? id).map
      .source).or (pipeline.languageObjection path language) := by
  simp [objectionsFrom, List.findSome?_append, findSome?_map_map]

/-- What stands against taking the file in comes before what stands against its
language. -/
theorem findSome?_objections_eq_or :
    (pipeline.objections root path language).findSome? id
      =
    (((SourceFile.objections (pipeline.intake language) root path).findSome? id).map
      .source).or (pipeline.languageObjection path language) := by
  simp [objections, List.findSome?_append, findSome?_map_map]

/-- The first objection is the same for a tree and for the answers about it. -/
theorem findSome?_objections :
    (pipeline.objections root path language).findSome? id
      =
    (pipeline.objectionsFrom path language (.ofTree root path)).findSome? id := by
  rw [findSome?_objections_eq_or, findSome?_objectionsFrom,
    SourceFile.findSome?_objections_ofTree]

/-- Without a language in the end, the file is refused; with one, its text is analyzed. -/
theorem value_analyzeLoaded
    (f : SourceFile)
    (scope : Scope) :
    (pipeline.analyzeLoaded language f).value scope
      =
    match language.or f.language with
    | some l => .ok ((pipeline.analyzeSource f.source l).value scope)
    | none => .error (.undetermined f.path.text) := by
  unfold analyzeLoaded
  cases language.or f.language <;> rfl

/-- The language is the given one, or else the implied one. -/
theorem languageObjection_eq :
    pipeline.languageObjection path language
      =
    match language.or (SourceFile.impliedLanguage (pipeline.intake language)
      (SourceFile.extensionOf path)) with
    | some _ => none
    | none => some (.undetermined path.text) := by
  unfold languageObjection SourceFile.impliedLanguage intake
  cases language with
  | some l =>
      simp
  | none =>
      cases pipeline.files.inferLanguage with
      | false =>
          simp
      | true =>
          cases (SourceFile.extensionOf path).bind Language.ofExtension? <;> simp

theorem value_analyzeFileFrom
    (answers : FileAnswers)
    (scope : Scope) :
    (pipeline.analyzeFileFrom answers path language).value scope
      =
    match (SourceFile.loadFrom (pipeline.intake language) answers path).value
      { scope with file := some path.text } with
    | .error e => .error (.source e)
    | .ok f =>
      (pipeline.analyzeLoaded language f).value { scope with file := some path.text } := by
  rw [analyzeFileFrom, Logged.value_within, Logged.value_bind, Logged.value_bind]
  cases (SourceFile.loadFrom (pipeline.intake language) answers path).value
    { scope with file := some path.text } <;> rfl

/-- Either the first objection is the answer, or there is none and the text that is read is
analyzed. -/
theorem analyzeFileFrom_cases
    (answers : FileAnswers)
    (scope : Scope) :
    (∃ e,
      (pipeline.objectionsFrom path language answers).findSome? id = some e ∧
      (pipeline.analyzeFileFrom answers path language).value scope = .error e) ∨
    (∃ size content source l,
      (pipeline.objectionsFrom path language answers).findSome? id = none ∧
      answers.size = .ok (some size) ∧
      size ≤ maxSourceBytes ∧
      answers.bytes = .ok content ∧
      String.fromUTF8? content = some source ∧
      language.or (SourceFile.impliedLanguage (pipeline.intake language)
        (SourceFile.extensionOf path)) = some l ∧
      (pipeline.analyzeFileFrom answers path language).value scope
        =
      .ok ((pipeline.analyzeSource source l).value
        { scope with file := some path.text })) := by
  rw [findSome?_objectionsFrom, value_analyzeFileFrom]
  rcases SourceFile.loadFrom_cases (pipeline.intake language) path answers
    { scope with file := some path.text } with
    ⟨e, hobjection, hload⟩ | ⟨size, content, source, hnone, hsize, hle, hread,
     htext, hload⟩
  · left
    exact ⟨.source e, by simp [hobjection], by rw [hload]⟩
  · rw [hload, hnone]
    simp only [Option.map_none, Option.none_or, value_analyzeLoaded, languageObjection_eq]
    cases language.or (SourceFile.impliedLanguage (pipeline.intake language)
      (SourceFile.extensionOf path)) with
    | none =>
        exact Or.inl ⟨.undetermined path.text, rfl, rfl⟩
    | some l =>
        exact Or.inr ⟨size, content, source, l, rfl, hsize, hle, hread, htext, rfl, rfl⟩

/-- Either the first objection is the answer, or there is none and the text of the file is
analyzed. -/
theorem analyzeFile_cases
    (scope : Scope) :
    (∃ e,
      (pipeline.objections root path language).findSome? id = some e ∧
      (pipeline.analyzeFile root path language).value scope = .error e) ∨
    (∃ content source l,
      (pipeline.objections root path language).findSome? id = none ∧
      root.readBytes path = .ok content ∧
      content.size ≤ maxSourceBytes ∧
      String.fromUTF8? content = some source ∧
      language.or (SourceFile.impliedLanguage (pipeline.intake language)
        (SourceFile.extensionOf path)) = some l ∧
      (pipeline.analyzeFile root path language).value scope
        =
      .ok ((pipeline.analyzeSource source l).value
        { scope with file := some path.text })) := by
  rw [analyzeFile_eq, findSome?_objections]
  rcases pipeline.analyzeFileFrom_cases path language (.ofTree root path) scope with
    hfirst | ⟨size, content, source, l, hnone, hsize, hle, hbytes, htext, hl, hvalue⟩
  · exact Or.inl hfirst
  · obtain ⟨hread, rfl⟩ := SourceFile.ofTree_eq_ok root path hsize hbytes
    exact Or.inr ⟨content, source, l, hnone, hread, hle, htext, hl, hvalue⟩

theorem analyzeFileFrom_eq_error_iff
    {answers : FileAnswers} {scope : Scope} {e : AnalysisError} :
    (pipeline.analyzeFileFrom answers path language).value scope = .error e
      ↔
    (pipeline.objectionsFrom path language answers).findSome? id = some e := by
  rcases pipeline.analyzeFileFrom_cases path language answers scope with
    ⟨e', hfirst, hvalue⟩ | ⟨size, content, source, l, hnone, -, -, -, -, -, hvalue⟩
  · simp [hfirst, hvalue]
  · simp [hnone, hvalue]

theorem analyzeFile_eq_error_iff
    {scope : Scope} {e : AnalysisError} :
    (pipeline.analyzeFile root path language).value scope = .error e
      ↔
    (pipeline.objections root path language).findSome? id = some e := by
  rw [analyzeFile_eq, findSome?_objections, analyzeFileFrom_eq_error_iff]

/-- The analysis of a text that has been read: the text is what the bytes are, the language
is the given one or else that of the extension, and the time is that of the call. -/
theorem analyzeSource_of_text
    {content : ByteArray} {source : String} {l : Language}
    (htext : String.fromUTF8? content = some source)
    (hl :
      language.or (SourceFile.impliedLanguage (pipeline.intake language)
        (SourceFile.extensionOf path)) = some l)
    (scope : Scope) :
    let a := (pipeline.analyzeSource source l).value scope
    a.source.toUTF8 = content ∧
    (∀ given, language = some given → l = given) ∧
    (language = none → (SourceFile.extensionOf path).bind Language.ofExtension? = some l) ∧
    ∀ scope',
      a = { (pipeline.analyzeSource a.source l).value scope' with
        timestamp := scope.now } := by
  intro a
  have hsource : a.source = source := by
    simp only [a, value_analyzeSource]
    rfl
  refine ⟨?_, ?_, ?_, ?_⟩
  · rw [hsource, toUTF8_of_fromUTF8? htext]
  · rintro given rfl
    simpa using hl.symm
  · rintro rfl
    simp [SourceFile.impliedLanguage] at hl
    exact hl.2
  · intro scope'
    rw [hsource, value_analyzeSource]
    simp only [a, value_analyzeSource]
    rfl

/--
The analysis of a file fails with the first objection.  Without an objection it is the
analysis of the text that the bytes of the file are, in the language that is given or
else in the one that the extension implies, made at the time of the call.  Whatever comes
out, a session that performs it keeps its files.

The same holds whatever the system answers about a file.  What it refuses is refused, and
what is analyzed is what it gave to be read.
-/
theorem analyzeFile_checks
    (scope : Scope) :
    let first := (pipeline.objections root path language).findSome? id
    let outcome := (pipeline.analyzeFile root path language).value scope
    (∀ e, outcome = .error e ↔ first = some e) ∧
    (root.get path = .error .notFound → outcome = .error (.source (.notFound path.text))) ∧
    (first = none →
      ∃ content a l,
        outcome = .ok a ∧
        root.readBytes path = .ok content ∧
        a.source.toUTF8 = content ∧
        a.source.utf8ByteSize ≤ maxSourceBytes ∧
        (∀ given, language = some given → l = given) ∧
        (language = none → (SourceFile.extensionOf path).bind Language.ofExtension? =
          some l) ∧
        ∀ scope',
          a = { (pipeline.analyzeSource a.source l).value scope' with
            timestamp := scope.now }) ∧
    (∀ (t : Task) (s : Session),
      s.files = root →
      ((Session.perform t (pipeline.analyzeFile root path language)).run.run s).2.files =
        root) ∧
    ∀ answers : FileAnswers,
      let first := (pipeline.objectionsFrom path language answers).findSome? id
      let outcome := (pipeline.analyzeFileFrom answers path language).value scope
      (∀ e, outcome = .error e ↔ first = some e) ∧
      (∀ e, answers.size = .error e → outcome = .error (.source e)) ∧
      (first = none →
        ∃ size content a l,
          outcome = .ok a ∧
          answers.size = .ok (some size) ∧
          size ≤ maxSourceBytes ∧
          answers.bytes = .ok content ∧
          a.source.toUTF8 = content ∧
          (∀ given, language = some given → l = given) ∧
          (language = none → (SourceFile.extensionOf path).bind Language.ofExtension? =
            some l) ∧
          ∀ scope',
            a =
              { (pipeline.analyzeSource a.source l).value scope' with
                timestamp := scope.now }) := by
  intro first outcome
  have hsession : ∀ (t : Task) (s : Session), s.files = root →
      ((Session.perform t (pipeline.analyzeFile root path language)).run.run s).2.files =
        root := by
    intro t s hs
    obtain ⟨events, ready, hrun⟩ :=
      Session.run_perform t (pipeline.analyzeFile root path language) s
    rw [hrun]
    exact hs
  have herror : ∀ e, outcome = .error e ↔ first = some e :=
    fun e => pipeline.analyzeFile_eq_error_iff root path language
  refine ⟨herror, ?_, ?_, hsession, ?_⟩
  · intro hmissing
    rw [herror]
    simp [first, objections, SourceFile.objections, SourceFile.lookupObjection, hmissing,
      SourceError.ofSystem]
  · intro hnone
    rcases pipeline.analyzeFile_cases root path language scope with
      ⟨e, hfirst, _⟩ | ⟨content, source, l, _, hread, hsize, htext, hl, hvalue⟩
    · cases hnone.symm.trans hfirst
    · obtain ⟨hbytes, hgiven, himplied, htime⟩ :=
        pipeline.analyzeSource_of_text path language htext hl
          { scope with file := some path.text }
      refine ⟨content, _, l, hvalue, hread, hbytes, ?_, hgiven, himplied, htime⟩
      rw [← hbytes] at hsize
      exact hsize
  · intro answers first outcome
    have herror : ∀ e, outcome = .error e ↔ first = some e :=
      fun e => pipeline.analyzeFileFrom_eq_error_iff path language
    refine ⟨herror, ?_, ?_⟩
    · intro e he
      rw [herror]
      simp [first, objectionsFrom, SourceFile.objectionsFrom,
        SourceFile.lookupObjectionFrom, he]
    · intro hnone
      rcases pipeline.analyzeFileFrom_cases path language answers scope with
        ⟨e, hfirst, _⟩ | ⟨size, content, source, l, _, hsize, hle, hread,
         htext, hl, hvalue⟩
      · cases hnone.symm.trans hfirst
      · exact ⟨size, content, _, l, hvalue, hsize, hle, hread,
          pipeline.analyzeSource_of_text path language htext hl
            { scope with file := some path.text }⟩

end Pipeline

end TableLexer
