import TableLexer.Proofs.Batch.Limit
import TableLexer.Proofs.Builtin.Patterns
import TableLexer.Proofs.Files.Checks
import TableLexer.Proofs.Text.LowerCase

/-!
# Discovery and analysis agree on extensions

The search for source files and the analysis of a file read extensions in different ways.
The search makes ASCII capitals small; the analysis takes the Unicode lower case first, and
then compares with a list of its own while the case of ASCII letters does not matter.  All
three come to the same, because no extension of a source file has a `k` or an `i`, the only
ASCII letters that characters beyond ASCII have in their lower case (`ofExtension?_lower`,
`isSupportedExtension_lower`).

The list of the analysis holds the extensions that imply a language and `txt` besides
(`isSupportedExtension_iff`), so that is also what a given language adds to the search.
-/

namespace TableLexer

/-! ## Extensions -/

namespace Language

/-- Every extension that implies a language is one that only ASCII texts come to. -/
theorem isOwnWord_of_mem_extensions
    {l : Language} {e : String}
    (h : e ∈ l.extensions) :
    Text.isOwnWord e = true := by
  have hall : l.extensions.all Text.isOwnWord = true := by
    cases l <;> decide
  exact List.all_eq_true.1 hall e h

/-- An extension implies the same language in its Unicode lower case. -/
theorem ofExtension?_lower
    (extension : String) :
    ofExtension? (Text.lower extension) = ofExtension? extension := by
  unfold ofExtension?
  congr 1
  funext l
  rw [Bool.eq_iff_iff, List.contains_iff_mem, List.contains_iff_mem]
  constructor
  · intro h
    rwa [(Text.asciiLower_lower_eq_iff (isOwnWord_of_mem_extensions h)).1 rfl]
  · intro h
    rwa [(Text.asciiLower_lower_eq_iff (isOwnWord_of_mem_extensions h)).2 rfl]

theorem ofExtension?_isSome_iff
    {extension : String} :
    (ofExtension? extension).isSome = true
      ↔
    Text.asciiLower extension ∈ all.flatMap extensions := by
  rw [ofExtension?, List.find?_isSome, List.mem_flatMap]
  simp only [List.contains_iff_mem]

end Language

/-- The extension is that of plain text, which implies no language. -/
def isPlainText (extension : String) : Prop :=
  Text.asciiLower extension = "txt"

/-- The known extensions are those that imply a language, and that of plain text. -/
theorem isSupportedExtension_iff
    {extension : String} :
    isSupportedExtension extension = true
      ↔
    isPlainText extension ∨ (Language.ofExtension? extension).isSome = true := by
  have hsmall : ∀ e ∈ supportedExtensions, Text.asciiLower e = e := by
    have hall :
        supportedExtensions.all (fun e => e.toList.map Char.toLower == e.toList) =
          true := by
      decide
    intro e he
    exact Text.asciiLower_eq_self (eq_of_beq (List.all_eq_true.1 hall e he))
  have hmem : isSupportedExtension extension = true
      ↔ Text.asciiLower extension ∈ supportedExtensions := by
    rw [isSupportedExtension, List.any_eq_true]
    constructor
    · rintro ⟨e, he, hsame⟩
      rw [← eq_of_beq hsame, hsmall e he]
      exact he
    · intro he
      exact ⟨_, he, beq_iff_eq.2 (hsmall _ he)⟩
  have hlist : supportedExtensions = "txt" :: Language.all.flatMap Language.extensions :=
    rfl
  rw [hmem, hlist, List.mem_cons, Language.ofExtension?_isSome_iff, isPlainText]

theorem isSupportedExtension_lower
    (extension : String) :
    isSupportedExtension (Text.lower extension) = isSupportedExtension extension := by
  rw [Bool.eq_iff_iff, isSupportedExtension_iff, isSupportedExtension_iff,
    Language.ofExtension?_lower, isPlainText, isPlainText,
    Text.asciiLower_lower_eq_iff (by decide)]

theorem ofExtension?_of_isPlainText
    {extension : String}
    (h : isPlainText extension) :
    Language.ofExtension? extension = none := by
  rw [Language.ofExtension?, h]
  decide

/-! ## Candidates -/

namespace Discovery

theorem isCandidate_none_iff
    {p : Path} :
    isCandidate none p = true
      ↔
    ∃ extension, p.extension? = some extension ∧
      (Language.ofExtension? extension).isSome = true := by
  unfold isCandidate
  cases p.extension? <;> simp

theorem isCandidate_some_iff
    {l : Language} {p : Path} :
    isCandidate (some l) p = true
      ↔
    ∃ extension, p.extension? = some extension ∧
      isSupportedExtension extension = true := by
  unfold isCandidate
  cases p.extension? <;> simp

/-- A given language adds the files of plain text to the candidates. -/
theorem isCandidate_some_iff_or
    {l : Language} {p : Path} :
    isCandidate (some l) p = true
      ↔
    isCandidate none p = true ∨
      ∃ extension, p.extension? = some extension ∧ isPlainText extension := by
  simp only [isCandidate_some_iff, isCandidate_none_iff, isSupportedExtension_iff,
    ← exists_or, ← and_or_left, or_comm]

theorem isCandidate_of_mem_gather
    {language : Option Language} {limit : Option Nat} {found : Nat}
    {files : List Path} {q : Path}
    (hq : q ∈ (gather language limit found files).1) :
    isCandidate language q = true := by
  cases limit with
  | none =>
      rw [gather_of_unlimited] at hq
      exact (List.mem_filter.1 hq).2
  | some limit =>
      rw [gather_of_limit] at hq
      exact (List.mem_filter.1 (List.mem_of_mem_take hq)).2

/-- Every file that is discovered is a candidate. -/
theorem isCandidate_of_mem_discover
    {config : BatchConfig} {root : FileTree} {dir : Path} {scope : Scope}
    {files : List Path} {q : Path}
    (h : (discover config root dir).value scope = .ok files)
    (hq : q ∈ files) :
    isCandidate config.language q = true := by
  obtain ⟨_, _, _, rfl⟩ := exists_found_of_discover h
  exact isCandidate_of_mem_gather ((inPathOrder_perm _).mem_iff.1 hq)

end Discovery

/-! ## The analysis of a file -/

namespace SourceFile

/-- Among the objections only the one about the extension names it. -/
theorem extensionObjection_of_first
    {intake : Intake} {root : FileTree} {p : Path} {extension : Option String}
    (h : (objections intake root p).findSome? id =
      some (.unsupportedExtension extension)) :
    extensionObjection intake p = some (.unsupportedExtension extension) := by
  obtain ⟨o, ho, heq⟩ := List.exists_of_findSome?_eq_some h
  obtain rfl : o = some (.unsupportedExtension extension) := heq
  simp only [objections, List.mem_cons, List.not_mem_nil, or_false] at ho
  rcases ho with hlookup | hkind | hextension | hsize | htext
  · unfold lookupObjection at hlookup
    split at hlookup
    · next e _ =>
        cases e <;> cases hlookup
    · cases hlookup
  · unfold kindObjection at hkind
    split at hkind <;> cases hkind
  · exact hextension.symm
  · obtain ⟨content, -, hlarge⟩ := Option.bind_eq_some_iff.1 hsize.symm
    split at hlarge <;> cases hlarge
  · obtain ⟨content, -, hbad⟩ := Option.bind_eq_some_iff.1 htext.symm
    split at hbad <;> cases hbad

/-- A known extension is not objected to. -/
theorem extensionObjection_of_supported
    {intake : Intake} {p : Path} {extension : String}
    (h : p.extension? = some extension)
    (hsupported : isSupportedExtension extension = true) :
    extensionObjection intake p = none := by
  unfold extensionObjection extensionOf
  simp [h, isSupportedExtension_lower, hsupported]

end SourceFile

namespace Pipeline

variable {pipeline : Pipeline} {root : FileTree} {p : Path} {scope : Scope}

/-- The language of an analysis is that of the extension as it is written. -/
theorem ofExtension?_of_analyzeFile
    {a : Analysis}
    (h : (pipeline.analyzeFile root p none).value scope = .ok a) :
    ∃ extension,
      p.extension? = some extension ∧
      Language.ofExtension? extension = some a.language := by
  rcases pipeline.analyzeFile_cases root p none scope with
    ⟨e, -, hvalue⟩ | ⟨content, source, l, -, -, -, -, hlanguage, hvalue⟩
  · rw [hvalue] at h
    cases h
  · rw [hvalue] at h
    cases h
    rw [Option.none_or, SourceFile.impliedLanguage] at hlanguage
    split at hlanguage
    · obtain ⟨lowered, hlowered, himplied⟩ := Option.bind_eq_some_iff.1 hlanguage
      obtain ⟨extension, hextension, rfl⟩ := Option.map_eq_some_iff.1 hlowered
      refine ⟨extension, hextension, ?_⟩
      rw [← Language.ofExtension?_lower, himplied, value_analyzeSource]
      exact congrArg some (Table.language_builtin l).symm
    · cases hlanguage

/-- A file that is refused is refused for the first objection to taking it in. -/
theorem findSome?_of_analyzeFile_source
    {language : Option Language} {e : SourceError}
    (h : (pipeline.analyzeFile root p language).value scope = .error (.source e)) :
    (SourceFile.objections (pipeline.intake language) root p).findSome? id = some e := by
  rw [analyzeFile_eq_error_iff, findSome?_objections_eq_or, Option.or_eq_some_iff] at h
  rcases h with hsource | ⟨-, hlanguage⟩
  · obtain ⟨e', hfirst, heq⟩ := Option.map_eq_some_iff.1 hsource
    cases heq
    exact hfirst
  · rw [languageObjection_eq] at hlanguage
    split at hlanguage <;> cases hlanguage

/-- Where the language is missing in the answer, there is none. -/
theorem languageObjection_of_analyzeFile_undetermined
    {language : Option Language} {path : String}
    (h : (pipeline.analyzeFile root p language).value scope =
      .error (.undetermined path)) :
    pipeline.languageObjection p language = some (.undetermined path) := by
  rw [analyzeFile_eq_error_iff, findSome?_objections_eq_or, Option.or_eq_some_iff] at h
  rcases h with hsource | ⟨-, hlanguage⟩
  · obtain ⟨e, -, heq⟩ := Option.map_eq_some_iff.1 hsource
    cases heq
  · exact hlanguage

/-- A candidate is not refused for its extension. -/
theorem not_unsupported_of_isCandidate
    (h : Discovery.isCandidate none p = true)
    (extension : Option String) :
    (pipeline.analyzeFile root p none).value scope
      ≠ .error (.source (.unsupportedExtension extension)) := by
  obtain ⟨raw, hraw, hlanguage⟩ := Discovery.isCandidate_none_iff.1 h
  intro herror
  have hobjection :=
    SourceFile.extensionObjection_of_first (findSome?_of_analyzeFile_source herror)
  rw [SourceFile.extensionObjection_of_supported hraw
    (isSupportedExtension_iff.2 (Or.inr hlanguage))] at hobjection
  cases hobjection

/-- Where the extension implies a language, a candidate is not left without one. -/
theorem not_undetermined_of_isCandidate
    (h : Discovery.isCandidate none p = true)
    (hinfer : pipeline.files.inferLanguage = true)
    (path : String) :
    (pipeline.analyzeFile root p none).value scope ≠ .error (.undetermined path) := by
  obtain ⟨raw, hraw, hlanguage⟩ := Discovery.isCandidate_none_iff.1 h
  have hnone : pipeline.languageObjection p none = none := by
    rw [← Language.ofExtension?_lower] at hlanguage
    simp [languageObjection, SourceFile.extensionOf, hraw, hinfer,
      Option.isSome_iff_ne_none.1 hlanguage]
  intro herror
  rw [languageObjection_of_analyzeFile_undetermined herror] at hnone
  cases hnone

/-- What is analyzed without a given language is a candidate. -/
theorem isCandidate_of_analyzeFile
    {a : Analysis}
    (h : (pipeline.analyzeFile root p none).value scope = .ok a) :
    Discovery.isCandidate none p = true := by
  obtain ⟨extension, hextension, hlanguage⟩ := ofExtension?_of_analyzeFile h
  exact Discovery.isCandidate_none_iff.2 ⟨extension, hextension, by rw [hlanguage]; rfl⟩

/--
The search and the analysis agree on extensions, whatever the extension of the path is.
The search finds candidates only.  A candidate of the search without a given language is
never refused for its extension, and not for a missing language either where extensions
imply one; if it is analyzed, then in the language that its extension implies as it is
written.  What is analyzed without a given language is such a candidate.  A given language
adds to the candidates exactly the paths with the extension `txt`, in any case of its ASCII
letters.
-/
theorem extensions_agree
    (pipeline : Pipeline)
    (root : FileTree)
    (p : Path)
    (scope : Scope) :
    let outcome := (pipeline.analyzeFile root p none).value scope
    (∀ config dir files,
      (Discovery.discover config root dir).value scope = .ok files →
      p ∈ files →
      Discovery.isCandidate config.language p = true) ∧
    (Discovery.isCandidate none p = true →
      (∀ extension, outcome ≠ .error (.source (.unsupportedExtension extension))) ∧
      (pipeline.files.inferLanguage = true →
        ∀ path, outcome ≠ .error (.undetermined path)) ∧
      ∀ a, outcome = .ok a →
        p.extension?.bind Language.ofExtension? = some a.language) ∧
    (∀ a, outcome = .ok a → Discovery.isCandidate none p = true) ∧
    ∀ l,
      (Discovery.isCandidate (some l) p = true
        ↔
      Discovery.isCandidate none p = true ∨ ∃ extension,
        p.extension? = some extension ∧ Text.asciiLower extension = "txt") ∧
      ¬ (Discovery.isCandidate none p = true ∧ ∃ extension,
        p.extension? = some extension ∧ Text.asciiLower extension = "txt") := by
  intro outcome
  refine
    ⟨fun config dir files hfiles hp => Discovery.isCandidate_of_mem_discover hfiles hp, ?_,
      fun a ha => isCandidate_of_analyzeFile ha, ?_⟩
  · intro hcandidate
    refine ⟨not_unsupported_of_isCandidate hcandidate,
      not_undetermined_of_isCandidate hcandidate, ?_⟩
    intro a ha
    obtain ⟨extension, hextension, hlanguage⟩ := ofExtension?_of_analyzeFile ha
    rw [hextension, Option.bind_some, hlanguage]
  · intro l
    refine ⟨Discovery.isCandidate_some_iff_or, ?_⟩
    rintro ⟨hcandidate, extension, hextension, htxt⟩
    obtain ⟨raw, hraw, hlanguage⟩ := Discovery.isCandidate_none_iff.1 hcandidate
    obtain rfl : raw = extension := Option.some.inj (hraw.symm.trans hextension)
    rw [ofExtension?_of_isPlainText htxt] at hlanguage
    cases hlanguage

/-- The case of ASCII letters does not matter to the search, nor to the analysis of what it
finds. -/
theorem extensions_agree_capitals :
    let pipeline : Pipeline := ⟨⟨true, true⟩, ⟨true⟩⟩
    let root : FileTree := .folder [("a.CpP", .file ⟨#[]⟩), ("b.TxT", .file ⟨#[]⟩)]
    (Discovery.discover { threads := 1 } root ⟨"."⟩).value ⟨.epoch, none⟩
      = .ok [⟨"./a.CpP"⟩] ∧
    (pipeline.analyzeFile root ⟨"./a.CpP"⟩ none).value ⟨.epoch, none⟩
      ≠ .error (.source (.unsupportedExtension (some "cpp"))) ∧
    Discovery.isCandidate none ⟨"./b.TxT"⟩ = false ∧
    Discovery.isCandidate (some .c) ⟨"./b.TxT"⟩ = true := by
  intro pipeline root
  have hfiles :
      (Discovery.discover { threads := 1 } root ⟨"."⟩).value ⟨.epoch, none⟩
        =
      .ok [⟨"./a.CpP"⟩] := by
    decide +kernel
  obtain ⟨hfound, hfile, -⟩ := extensions_agree pipeline root ⟨"./a.CpP"⟩ ⟨.epoch, none⟩
  obtain ⟨-, -, -, htext⟩ := extensions_agree pipeline root ⟨"./b.TxT"⟩ ⟨.epoch, none⟩
  have hcandidate := hfound _ _ _ hfiles List.mem_cons_self
  refine ⟨hfiles, (hfile hcandidate).1 _, by decide +kernel, ?_⟩
  exact (htext .c).1.2 (Or.inr ⟨"TxT", by decide +kernel, by decide +kernel⟩)

end Pipeline

end TableLexer
