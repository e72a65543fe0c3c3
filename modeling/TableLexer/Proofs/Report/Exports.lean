import Mathlib.Data.Nat.Find
import TableLexer.Proofs.Files.Checks
import TableLexer.Proofs.Files.Places
import TableLexer.Proofs.Report.Identity

/-!
# Reports put into a directory

A report goes into a directory under the first of its names that is free.  The names of
one report differ in their numbers (`numberedName_inj`), so a folder with `n` children
leaves one of the first `n + 1` names free and the search for it ends
(`Export.exists_run`).

The tree gets one file more by each call and changes nowhere else.  So whatever stands in
the tree stays, and the reports of a sequence of calls have different paths and are all
read back in the end (`exports_are_kept`).
-/

namespace TableLexer

/-! ### The names of a report -/

namespace Text

theorem toList_toString_ofNat
    (n : Nat) :
    (toString (Int.ofNat n)).toList = Nat.toDigits 10 n := by
  change (toString n).toList = _
  simp

theorem toList_toString_negSucc
    (n : Nat) :
    (toString (Int.negSucc n)).toList = '-' :: Nat.toDigits 10 (n + 1) := by
  simp [Int.repr]

/-- Letters, digits, dashes and dots make up the names of reports. -/
def isNameChar (c : Char) : Bool :=
  c.isAlphanum || c == '-' || c == '.'

theorem all_isNameChar_toDigits
    (n : Nat) :
    (Nat.toDigits 10 n).all isNameChar = true := by
  rw [List.all_eq_true]
  intro c hc
  have hdigit : c.isDigit = true := Nat.isDigit_of_mem_toDigits (by omega) (by omega) hc
  simp [isNameChar, Char.isAlphanum, hdigit]

theorem all_isNameChar_toString
    (i : Int) :
    (toString i).toList.all isNameChar = true := by
  cases i with
  | ofNat n =>
      rw [toList_toString_ofNat]
      exact all_isNameChar_toDigits n
  | negSucc n =>
      rw [toList_toString_negSucc, List.all_cons, all_isNameChar_toDigits]
      rfl

end Text

namespace Analysis

variable (a : Analysis) (format : ReportFormat)

/-- What stands behind the stem of a numbered name. -/
def nameEnd (format : ReportFormat) : Nat → List Char
  | 0 => '.' :: format.extension.toList
  | n + 1 => '-' :: (Nat.toDigits 10 (n + 1) ++ '.' :: format.extension.toList)

theorem toList_fileStem :
    a.fileStem.toList = "lexical-analysis-".toList ++
      (toString a.timestamp.unixMillis).toList :=
  String.toList_append

theorem toList_numberedName
    (n : Nat) :
    (a.numberedName format n).toList
      =
    "lexical-analysis-".toList ++ ((toString a.timestamp.unixMillis).toList ++
      nameEnd format n) := by
  cases n <;> simp [numberedName, fileName, toList_fileStem, nameEnd]

theorem numberedName_inj :
    Function.Injective (a.numberedName format) := by
  intro m n h
  have hlist := congrArg String.toList h
  rw [toList_numberedName, toList_numberedName] at hlist
  have hend := List.append_cancel_left (List.append_cancel_left hlist)
  cases m with
  | zero =>
      cases n with
      | zero =>
          rfl
      | succ n =>
          simp [nameEnd] at hend
  | succ m =>
      cases n with
      | zero =>
          simp [nameEnd] at hend
      | succ n =>
          simp only [nameEnd, List.cons.injEq, true_and] at hend
          exact Text.toDigits_inj (List.append_cancel_right hend)

theorem all_isNameChar_nameEnd
    (n : Nat) :
    (nameEnd format n).all Text.isNameChar = true := by
  have hextension : format.extension.toList.all Text.isNameChar = true := by
    cases format <;> decide
  cases n with
  | zero =>
      rw [nameEnd, List.all_cons, hextension]
      rfl
  | succ n =>
      rw [nameEnd, List.all_cons, List.all_append, List.all_cons, hextension,
        Text.all_isNameChar_toDigits]
      rfl

theorem all_isNameChar_numberedName
    (n : Nat) :
    (a.numberedName format n).toList.all Text.isNameChar = true := by
  rw [toList_numberedName, List.all_append, List.all_append, Text.all_isNameChar_toString,
    all_isNameChar_nameEnd]
  decide

theorem isName_numberedName
    (n : Nat) :
    Path.IsName (a.numberedName format n) := by
  have hfirst : (a.numberedName format n).toList.head? = some 'l' := by
    rw [toList_numberedName]
    rfl
  have hchars := List.all_eq_true.1 (a.all_isNameChar_numberedName format n)
  constructor
  · intro h
    simp [h] at hfirst
  · intro h
    simp [h] at hfirst
  · intro h
    simp [h] at hfirst
  · intro h
    exact absurd (hchars _ h) (by decide)
  · intro h
    exact absurd (hchars _ h) (by decide)

end Analysis

/-! ### One call -/

/-- A report that is to be put into a directory, and the scope of the call. -/
structure Export where
  analysis : Analysis
  format : ReportFormat
  scope : Scope

namespace Export

/-- The name of the report after a number of names that were taken. -/
def name (x : Export) (n : Nat) : String :=
  x.analysis.numberedName x.format n

/-- What the file of the report holds. -/
def content (x : Export) : ByteArray :=
  (x.analysis.render x.format).toUTF8

/-- Puts the report into a directory. -/
def run (x : Export) (root : FileTree) (directory : Path) :
    Except ReportError (FileTree × Path) :=
  (x.analysis.writeToDirectory root directory x.format).value x.scope

variable {root next last : FileTree} {directory : Path} {place : List String} {x : Export}

/-- From one tree to the next, the report has gone into a new file of a folder, under the
first of its names that is free, and nothing else has changed. -/
structure Adds
    (x : Export) (directory : Path) (place : List String)
    (root : FileTree) (n : Nat) (next : FileTree) : Prop where
  bounded : n ≤ Analysis.childCount root directory
  taken : ∀ m < n, (root.entryAt? (place ++ [x.name m])).isSome = true
  free : root.entryAt? (place ++ [x.name n]) = none
  entry_eq : ∀ q,
    next.entryAt? q
      =
    if q = place ++ [x.name n] then some (.file x.content) else root.entryAt? q

theorem Adds.keeps
    {n : Nat}
    (h : x.Adds directory place root n next) :
    root.Keeps next := by
  intro q e he
  rw [h.entry_eq, if_neg]
  · exact he
  · rintro rfl
    cases h.free.symm.trans he

/-- The search passes the names that are taken and ends at the first one that is free. -/
theorem createFrom_eq
    (hdirectory : root.LeadsTo directory place)
    {bound first n : Nat}
    (hfirst : first ≤ n)
    (hbound : n ≤ first + bound)
    (htaken : ∀ m, first ≤ m → m < n → (root.entryAt? (place ++ [x.name m])).isSome = true)
    (hfree : root.entryAt? (place ++ [x.name n]) = none) :
    x.analysis.createFrom root directory x.format first bound
      =
    (directory.join (x.name n),
      .ok (.put (.file x.content) (place ++ [x.name n]) root)) := by
  have hcreate : ∀ m,
      root.create (directory.join (x.analysis.numberedName x.format m))
          (x.analysis.render x.format).toUTF8
        =
      if (root.entryAt? (place ++ [x.name m])).isSome then .error .alreadyExists
      else .ok (.put (.file x.content) (place ++ [x.name m]) root) :=
    fun m => hdirectory.create_join (x.analysis.isName_numberedName x.format m) x.content
  induction bound generalizing first with
  | zero =>
      obtain rfl : first = n := by omega
      unfold Analysis.createFrom
      simp only [hcreate, hfree]
      rfl
  | succ bound ih =>
      unfold Analysis.createFrom
      rcases Nat.eq_or_lt_of_le hfirst with rfl | hlt
      · simp only [hcreate, hfree]
        rfl
      · simp only [hcreate, htaken first (Nat.le_refl _) hlt]
        exact ih hlt (by omega) fun m hm => htaken m (by omega)

/-- In a directory that is there, a call ends with the report in a new file. -/
theorem exists_run
    (hdirectory : root.LeadsTo directory place)
    (x : Export) :
    ∃ n next,
      x.Adds directory place root n next ∧
      x.run root directory = .ok (next, directory.join (x.name n)) := by
  obtain ⟨children, hat⟩ := FileTree.exists_children hdirectory.entry_eq
  have hcount : Analysis.childCount root directory = children.length := by
    have hget : root.get (if directory.text.isEmpty then ⟨"."⟩ else directory) = _ :=
      hdirectory.get_orDot hat
    rw [Analysis.childCount, hget]
    rfl
  obtain ⟨k, hk, hfree⟩ := FileTree.exists_free hat (x.analysis.numberedName_inj x.format)
  have hexists : ∃ n, root.entryAt? (place ++ [x.name n]) = none := ⟨k, hfree⟩
  let n := Nat.find hexists
  have hn : n ≤ Analysis.childCount root directory := by
    rw [hcount]
    exact Nat.le_trans (Nat.find_min' hexists hfree) hk
  have htaken : ∀ m < n, (root.entryAt? (place ++ [x.name m])).isSome = true := by
    intro m hm
    exact Option.isSome_iff_ne_none.2 (Nat.find_min hexists hm)
  have hnone : root.entryAt? (place ++ [x.name n]) = none := Nat.find_spec hexists
  refine ⟨n, .put (.file x.content) (place ++ [x.name n]) root,
    ⟨hn, htaken, hnone, ?_⟩, ?_⟩
  · exact FileTree.entryAt?_put x.content hdirectory.entry_eq hnone
  · unfold run Analysis.writeToDirectory
    rw [createFrom_eq hdirectory (Nat.zero_le n) (by omega) (fun m _ => htaken m) hnone]
    rfl

end Export

/-! ### A sequence of calls -/

/-- Puts reports into a directory one after the other.  A call that fails leaves the tree
to the next one as it was. -/
def exportAll (directory : Path) :
    FileTree → List Export → FileTree × List (Except ReportError Path)
  | root, [] => (root, [])
  | root, x :: xs =>
    match x.run root directory with
    | .ok (next, p) =>
      let (last, results) := exportAll directory next xs
      (last, .ok p :: results)
    | .error e =>
      let (last, results) := exportAll directory root xs
      (last, .error e :: results)

/-- The reports have been added one after the other, and these are their paths. -/
inductive Exported (directory : Path) (place : List String) :
    FileTree → List Export → List Path → FileTree → Prop
  | nil (root : FileTree) :
      Exported directory place root [] [] root
  | cons
      {root next last : FileTree}
      {x : Export} {xs : List Export}
      {n : Nat} {paths : List Path}
      (added : x.Adds directory place root n next)
      (rest : Exported directory place next xs paths last) :
      Exported directory place root (x :: xs) (directory.join (x.name n) :: paths) last

namespace Exported

variable {root last : FileTree} {directory : Path} {place : List String}
variable {exports : List Export} {paths : List Path}

theorem keeps
    (h : Exported directory place root exports paths last) :
    root.Keeps last := by
  induction h with
  | nil root =>
      exact .refl root
  | cons added _ ih =>
      exact added.keeps.trans ih

/-- The names of the reports were free before the first call. -/
theorem free_of_mem
    (h : Exported directory place root exports paths last)
    {p : Path}
    (hp : p ∈ paths) :
    ∃ name, p = directory.join name ∧ root.entryAt? (place ++ [name]) = none := by
  induction h with
  | nil root =>
      cases hp
  | @cons root next last x xs n paths added _ ih =>
      rcases List.mem_cons.1 hp with rfl | hp
      · exact ⟨x.name n, rfl, added.free⟩
      · obtain ⟨name, rfl, hfree⟩ := ih hp
        refine ⟨name, rfl, ?_⟩
        cases hentry : root.entryAt? (place ++ [name]) with
        | none =>
            rfl
        | some e =>
            cases hfree.symm.trans (added.keeps _ e hentry)

/-- A report takes its name, so the later ones have others. -/
theorem nodup
    (h : Exported directory place root exports paths last) :
    paths.Nodup := by
  induction h with
  | nil root =>
      exact List.nodup_nil
  | @cons root next last x xs n paths added rest ih =>
      refine List.nodup_cons.2 ⟨?_, ih⟩
      intro hmem
      obtain ⟨name, hjoin, hfree⟩ := rest.free_of_mem hmem
      rw [← Path.join_inj hjoin, added.entry_eq, if_pos rfl] at hfree
      cases hfree

/-- Each report is read back in the end. -/
theorem readBytes_last
    (h : Exported directory place root exports paths last)
    (hdirectory : root.LeadsTo directory place) :
    List.Forall₂ (fun x p => last.readBytes p = .ok x.content) exports paths := by
  induction h with
  | nil root =>
      exact .nil
  | @cons root next last x xs n paths added rest ih =>
      have hnext := hdirectory.mono added.keeps
      refine .cons ?_ (ih hnext)
      apply (hnext.mono rest.keeps).readBytes_join
        (x.analysis.isName_numberedName x.format n)
      apply rest.keeps
      rw [← Export.name, added.entry_eq, if_pos rfl]

end Exported

/-- In a directory that is there, no call of a sequence fails. -/
theorem exists_exported
    {root : FileTree} {directory : Path} {place : List String}
    (hdirectory : root.LeadsTo directory place)
    (exports : List Export) :
    ∃ paths last,
      exportAll directory root exports = (last, paths.map .ok) ∧
      Exported directory place root exports paths last := by
  induction exports generalizing root with
  | nil =>
      exact ⟨[], root, rfl, .nil root⟩
  | cons x xs ih =>
      obtain ⟨n, next, hadds, hrun⟩ := x.exists_run hdirectory
      obtain ⟨paths, last, hall, hexported⟩ := ih (hdirectory.mono hadds.keeps)
      refine ⟨directory.join (x.name n) :: paths, last, ?_, .cons hadds hexported⟩
      rw [exportAll, hrun]
      simp [hall]

/-- Where a call fails, a session ends with its error and keeps its files. -/
theorem Session.run_downloadReport_of_error
    {t : Task} {a : Analysis} {directory : Path} {s : Session} {e : ReportError}
    (h : Export.run ⟨a, t.format, ⟨t.now, none⟩⟩ s.files directory = .error e)
    (label : String) :
    ∃ err ready,
      (downloadReport t label a directory).run.run s
        =
      (.error e.message, { s with err := err, tablesReady := ready }) := by
  obtain ⟨events, ready, hperform⟩ :=
    run_perform t (a.writeToDirectory s.files directory t.format) s
  change (a.writeToDirectory s.files directory t.format).value ⟨t.now, none⟩ =
    .error e at h
  rw [h] at hperform
  have hget : (get : Step Session).run.run s = (.ok s, s) := by rfl
  refine ⟨s.err ++ t.settings.log.lines events, ready, ?_⟩
  rw [downloadReport, run_bind_of_ok hget, run_bind_of_ok hperform]
  rfl

/-- Reports in a directory are never lost or overwritten.  If the directory is there, then
every call of a sequence of exports puts its report into one new file, under the first of
its names that is free, and changes nothing else; the paths are different, and in the end
each file holds its own report and whatever was in the tree is still there.  An export
that fails leaves the files as they were. -/
theorem exports_are_kept :
    (∀ (root : FileTree) (directory : Path) (exports : List Export),
      root.hasFolder directory.orDot = true →
      ∃ place paths last,
        root.LeadsTo directory place ∧
        exportAll directory root exports = (last, paths.map .ok) ∧
        Exported directory place root exports paths last ∧
        paths.Nodup ∧
        List.Forall₂ (fun x p => last.readBytes p = .ok x.content) exports paths ∧
        root.Keeps last) ∧
    (∀ (t : Task) (label : String) (a : Analysis) (directory : Path) (s : Session)
      (e : ReportError),
      Export.run ⟨a, t.format, ⟨t.now, none⟩⟩ s.files directory = .error e →
      ∃ s',
        (Session.downloadReport t label a directory).run.run s = (.error e.message, s') ∧
        s'.files = s.files ∧ s'.written = s.written) := by
  constructor
  · intro root directory exports h
    obtain ⟨place, hdirectory⟩ := (FileTree.hasFolder_orDot_iff root directory).1 h
    obtain ⟨paths, last, hall, hexported⟩ := exists_exported hdirectory exports
    exact ⟨place, paths, last, hdirectory, hall, hexported, hexported.nodup,
      hexported.readBytes_last hdirectory, hexported.keeps⟩
  · intro t label a directory s e he
    obtain ⟨err, ready, hrun⟩ := Session.run_downloadReport_of_error he label
    exact ⟨_, hrun, rfl, rfl⟩

/-- The first name of the first report is a folder's, and the last report has the time of
the first one, a millisecond before 1970.  Where no directory is, a session keeps its
files. -/
theorem exports_are_kept_among_others :
    let root : FileTree := .folder
      [("out", .folder [("lexical-analysis--1.txt", .folder []), ("notes", .file .empty)])]
    let before : Timestamp := ⟨-1, 86399, 999000000, by decide, by decide, by decide⟩
    let x : Export := ⟨.ofTokens .c before "a" [], .text, ⟨before, none⟩⟩
    let y : Export := ⟨.ofTokens .c .epoch "b" [], .json, ⟨.epoch, none⟩⟩
    let t : Task := ⟨{ inputs := [] }, ⟨.fixed, ⟨true⟩, ⟨false, true, .error⟩⟩, .epoch, 1⟩
    let s : Session := { files := root, input := .empty }
    root.hasFolder (Path.orDot ⟨"out/"⟩) = true ∧
      (exportAll ⟨"out/"⟩ root [x, y, x]).2.map Except.toOption
        =
      [some ⟨"out/lexical-analysis--1-1.txt"⟩, some ⟨"out/lexical-analysis-0.json"⟩,
        some ⟨"out/lexical-analysis--1-2.txt"⟩] ∧
      (∃ place paths last,
        root.LeadsTo ⟨"out/"⟩ place ∧
        exportAll ⟨"out/"⟩ root [x, y, x] = (last, paths.map .ok) ∧
        Exported ⟨"out/"⟩ place root [x, y, x] paths last ∧
        paths.Nodup ∧
        List.Forall₂ (fun x p => last.readBytes p = .ok x.content) [x, y, x] paths ∧
        root.Keeps last) ∧
      ∃ e s',
        Export.run ⟨x.analysis, t.format, ⟨t.now, none⟩⟩ s.files ⟨"gone"⟩ = .error e ∧
        (Session.downloadReport t "a" x.analysis ⟨"gone"⟩).run.run s =
          (.error e.message, s') ∧
        s'.files = s.files ∧ s'.written = s.written := by
  intro root before x y t s
  have h : root.hasFolder (Path.orDot ⟨"out/"⟩) = true := by decide +kernel
  have hnone :
      (Export.run ⟨x.analysis, t.format, ⟨t.now, none⟩⟩ s.files ⟨"gone"⟩).toBool =
        false := by
    decide +kernel
  refine ⟨h, by decide +kernel, exports_are_kept.1 root ⟨"out/"⟩ [x, y, x] h, ?_⟩
  cases hrun : Export.run ⟨x.analysis, t.format, ⟨t.now, none⟩⟩ s.files ⟨"gone"⟩ with
  | ok result =>
      rw [hrun] at hnone
      cases hnone
  | error e =>
      obtain ⟨s', hend⟩ := exports_are_kept.2 t "a" x.analysis ⟨"gone"⟩ s e hrun
      exact ⟨e, s', rfl, hend⟩

end TableLexer
