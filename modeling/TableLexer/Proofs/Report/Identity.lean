import Mathlib.Data.List.Basic
import TableLexer.Proofs.Batch.Agreement
import TableLexer.Proofs.Builtin.Patterns

/-!
# What a report says about its source

A text report shows a source and its tokens as they are, without any escapes, so a source
can hold lines that look like any other part of a report.  Still two reports are equal
only if they are of the same source: the end of a report has a fixed number of lines, one
of which tells how many lines the source has, and the source begins at a fixed line.

So everything is cut at line feeds.  A text is cut at the same line feed as another one if
as many stand before it, or if as many stand behind it (`cut_of_newlines`,
`cut_of_newlines_behind`).  What a report prints besides the source and the tokens is
free of line feeds.
-/

namespace TableLexer

namespace Text

@[simp] theorem newlines_nil :
    newlines [] = 0 := by
  rfl

@[simp] theorem newlines_cons
    (c : Char) (cs : List Char) :
    newlines (c :: cs) = newlines cs + if c = '\n' then 1 else 0 := by
  simp [newlines, List.count_cons]

/-- Two texts are cut at the same line feed if as many stand before it. -/
theorem cut_of_newlines
    {u v x y : List Char}
    (hcount : newlines u = newlines v)
    (h : u ++ '\n' :: x = v ++ '\n' :: y) :
    u = v ∧ x = y := by
  induction u generalizing v with
  | nil =>
      cases v with
      | nil =>
          simpa using h
      | cons d v =>
          simp at h hcount
          simp [← h.1] at hcount
  | cons c u ih =>
      cases v with
      | nil =>
          simp at h hcount
          simp [h.1] at hcount
      | cons d v =>
          simp at h hcount
          obtain ⟨rfl, hrest⟩ := h
          obtain ⟨rfl, rfl⟩ := ih (by omega) hrest
          exact ⟨rfl, rfl⟩

/-- Two texts are cut at the same line feed if as many stand behind it. -/
theorem cut_of_newlines_behind
    {u v x y : List Char}
    (hcount : newlines x = newlines y)
    (h : u ++ '\n' :: x = v ++ '\n' :: y) :
    u = v ∧ x = y := by
  have htotal := congrArg newlines h
  simp at htotal
  exact cut_of_newlines (by omega) h

theorem newlines_of_digits
    {cs : List Char}
    (h : ∀ c ∈ cs, c.isDigit = true) :
    newlines cs = 0 := by
  rw [newlines, List.count_eq_zero]
  intro hmem
  exact absurd (h _ hmem) (by decide)

@[simp] theorem newlines_toDigits
    (n : Nat) :
    newlines (Nat.toDigits 10 n) = 0 :=
  newlines_of_digits fun _ hc => Nat.isDigit_of_mem_toDigits (by omega) (by omega) hc

theorem toDigits_inj
    {m n : Nat}
    (h : Nat.toDigits 10 m = Nat.toDigits 10 n) :
    m = n := by
  have hread := congrArg (Nat.ofDigitChars 10 · 0) h
  simpa [Nat.ofDigitChars_ten_toDigits] using hread

@[simp] theorem newlines_paddedDecimal
    (width n : Nat) :
    newlines (paddedDecimal width n) = 0 := by
  have hzeros : ∀ k, newlines (List.replicate k '0') = 0 := by
    intro k
    exact newlines_of_digits fun c hc => by simp [(List.mem_replicate.1 hc).2]
  simp [paddedDecimal, decimal, hzeros]

end Text

open Text

/-- The names and labels in a report hold no line feeds, but for one that starts the last
line, and the names of the languages are told apart. -/
structure FixedTexts : Prop where
  displayName : ∀ l : Language, newlines l.displayName.toList = 0
  displayName_inj : ∀ l l' : Language, l.displayName = l'.displayName → l = l'
  kindName : ∀ k : Kind, newlines k.name.toList = 0
  kindText : ∀ k : Kind, newlines (Json.writeText k.name) = 0
  lineCount : newlines "Lines of code: ".toList = 0
  kindCounts : newlines "Token types: ".toList = 0
  dominant : newlines "\nMost common token: ".toList = 1

theorem fixedTexts :
    FixedTexts := by
  constructor
  · intro l
    cases l <;> decide +kernel
  · intro l l'
    cases l <;> cases l' <;> decide +kernel
  · intro k
    cases k <;> decide +kernel
  · intro k
    cases k <;> decide +kernel
  · decide +kernel
  · decide +kernel
  · decide +kernel

@[simp] theorem Timestamp.newlines_formatMillis
    (t : Timestamp) :
    newlines t.formatMillis.toList = 0 := by
  have hyear : ∀ year, newlines (writeYear year) = 0 := by
    intro year
    unfold writeYear
    split
    · simp
    · split <;> simp
  simp [formatMillis, writeSeconds, hyear]

/-- Times within one millisecond are written alike. -/
theorem Timestamp.formatMillis_eq
    {t t' : Timestamp}
    (hday : t.day = t'.day)
    (hsecond : t.second = t'.second)
    (hnano : t.nano / 1000000 = t'.nano / 1000000) :
    t.formatMillis = t'.formatMillis := by
  have hminute : t.secondOfMinute = t'.secondOfMinute := by
    unfold secondOfMinute
    omega
  have hfraction : t.fraction / 1000000 = t'.fraction / 1000000 := by
    unfold fraction
    omega
  simp only [formatMillis, writeSeconds, hday, hsecond, hminute, hfraction]

theorem Json.newlines_writeCompact_ofNat
    (n : Nat) :
    newlines (Json.ofNat n).writeCompact = 0 := by
  unfold Json.ofNat Json.writeCompact
  simp

@[simp] theorem KindCounts.newlines_render
    (c : KindCounts) :
    newlines c.render.toList = 0 := by
  have hfields : ∀ entries : List (Kind × Nat),
      newlines (Json.writeFields
        (entries.map fun entry => (some entry.1.name, Json.ofNat entry.2))) = 0 := by
    intro entries
    induction entries with
    | nil =>
        rfl
    | cons entry entries ih =>
        cases entries with
        | nil =>
            simp [Json.writeFields, Json.writeOptionalText,
              Json.newlines_writeCompact_ofNat, fixedTexts.kindText]
        | cons next entries =>
            rw [List.map_cons] at ih
            simp [Json.writeFields, Json.writeOptionalText,
              Json.newlines_writeCompact_ofNat, fixedTexts.kindText, ih]
  simp [render, toJson, Json.ofFields, Json.compact, Json.writeCompact,
    Function.comp_def, hfields]

@[simp] theorem Statistics.newlines_dominantSummary
    (s : Statistics) :
    newlines s.dominantSummary.toList = 0 := by
  unfold dominantSummary
  split <;> simp [fixedTexts.kindName]

namespace Analysis

/-- The report up to the line feed behind the token total. -/
def beforeLineCount (a : Analysis) : List Char :=
  "Lexical Analysis Results\nLanguage: ".toList ++ a.language.displayName.toList ++
    '\n' :: ("Timestamp: ".toList ++ a.timestamp.formatMillis.toList ++
    '\n' :: ("\nCODE:\n".toList ++ (a.source.toList ++
    '\n' :: ("\nTOKENS:\n".toList ++ (tokenLines a.tokens).toList ++
    "\nSTATISTICS:\nTotal tokens: ".toList ++ (toString a.statistics.total).toList))))

def lineCountLine (a : Analysis) : List Char :=
  "Lines of code: ".toList ++ (toString a.statistics.lines).toList

/-- The two lines behind the number of lines. -/
def afterLineCount (a : Analysis) : List Char :=
  "Token types: ".toList ++ a.statistics.counts.render.toList ++
    "\nMost common token: ".toList ++ a.statistics.dominantSummary.toList ++ ['\n']

theorem toList_renderText
    (a : Analysis) :
    a.renderText.toList
      =
    a.beforeLineCount ++ '\n' :: (a.lineCountLine ++ '\n' :: a.afterLineCount) := by
  have htimestamp : "\nTimestamp: ".toList = '\n' :: "Timestamp: ".toList := by rfl
  have hcode : "\n\nCODE:\n".toList = '\n' :: "\nCODE:\n".toList := by rfl
  have htokens : "\n\nTOKENS:\n".toList = '\n' :: "\nTOKENS:\n".toList := by rfl
  have hlines : "\nLines of code: ".toList = '\n' :: "Lines of code: ".toList := by rfl
  have htypes : "\nToken types: ".toList = '\n' :: "Token types: ".toList := by rfl
  have hlast : "\n".toList = ['\n'] := by rfl
  unfold renderText statisticsText beforeLineCount lineCountLine afterLineCount
  simp only [String.toList_append, List.append_assoc, List.cons_append,
    htimestamp, hcode, htokens, hlines, htypes, hlast]

@[simp] theorem newlines_lineCountLine
    (a : Analysis) :
    newlines a.lineCountLine = 0 := by
  unfold lineCountLine
  rw [newlines_append, fixedTexts.lineCount]
  simp

@[simp] theorem newlines_afterLineCount
    (a : Analysis) :
    newlines a.afterLineCount = 2 := by
  unfold afterLineCount
  simp only [newlines_append, fixedTexts.kindCounts, fixedTexts.dominant]
  simp

/-- A report tells how many lines its source has: the line that says so is the third one
from the end. -/
theorem lines_eq_of_renderText
    {a b : Analysis}
    (h : a.renderText = b.renderText) :
    a.beforeLineCount = b.beforeLineCount ∧ a.statistics.lines = b.statistics.lines := by
  have hlist := congrArg String.toList h
  rw [toList_renderText, toList_renderText] at hlist
  obtain ⟨hbefore, hend⟩ := cut_of_newlines_behind (by simp) hlist
  obtain ⟨hline, _⟩ := cut_of_newlines (by simp) hend
  refine ⟨hbefore, ?_⟩
  apply toDigits_inj
  simpa using List.append_cancel_left hline

/-- A report with the right number of lines tells its language, its time and its source. -/
theorem source_eq_of_renderText
    {a b : Analysis}
    (ha : a.statistics.lines = countLines a.source)
    (hb : b.statistics.lines = countLines b.source)
    (h : a.renderText = b.renderText) :
    a.language = b.language ∧
      a.timestamp.formatMillis = b.timestamp.formatMillis ∧
      a.source = b.source := by
  obtain ⟨hbefore, hlines⟩ := lines_eq_of_renderText h
  unfold beforeLineCount at hbefore
  obtain ⟨hlanguage, hrest⟩ := cut_of_newlines (by simp [fixedTexts.displayName]) hbefore
  obtain ⟨htimestamp, hrest⟩ := cut_of_newlines (by simp) hrest
  have hsource : newlines a.source.toList = newlines b.source.toList := by
    rw [ha, hb] at hlines
    exact Nat.succ.inj hlines
  obtain ⟨hsource, _⟩ := cut_of_newlines hsource (List.append_cancel_left hrest)
  refine ⟨?_, ?_, String.toList_inj.1 hsource⟩
  · apply fixedTexts.displayName_inj
    exact String.toList_inj.1 (List.append_cancel_left hlanguage)
  · exact String.toList_inj.1 (List.append_cancel_left htimestamp)

/-- Of the time, a report shows no more than the milliseconds. -/
theorem renderText_ofTokens_of_formatMillis
    {t t' : Timestamp}
    (h : t.formatMillis = t'.formatMillis)
    (l : Language) (source : String) (tokens : List Token) :
    (ofTokens l t source tokens).renderText =
      (ofTokens l t' source tokens).renderText := by
  unfold renderText
  simp only [ofTokens, h]

/-- A report tells the language, the time to the millisecond and the source, whatever the
source and the values of the tokens look like.  Where the tokens come from a scan, it tells
them and their statistics as well. -/
theorem renderText_identifies :
    (∀ (l l' : Language) (t t' : Timestamp) (source source' : String)
      (tokens tokens' : List Token),
      (ofTokens l t source tokens).renderText =
        (ofTokens l' t' source' tokens').renderText →
        l = l' ∧ t.formatMillis = t'.formatMillis ∧ source = source') ∧
    (∀ (pipeline pipeline' : Pipeline) (l l' : Language) (source source' : String)
      (scope scope' : Scope),
      pipeline.scan = pipeline'.scan →
      ((pipeline.analyzeSource source l).value scope).renderText
        = ((pipeline'.analyzeSource source' l').value scope').renderText →
        ((pipeline.analyzeSource source l).value scope).tokens
          = ((pipeline'.analyzeSource source' l').value scope').tokens ∧
        ((pipeline.analyzeSource source l).value scope).statistics
          = ((pipeline'.analyzeSource source' l').value scope').statistics) := by
  constructor
  · intro l l' t t' source source' tokens tokens' h
    exact source_eq_of_renderText rfl rfl h
  · intro pipeline pipeline' l l' source source' scope scope' hscan h
    simp only [Pipeline.value_analyzeSource] at h ⊢
    obtain ⟨hlanguage, _, hsource⟩ := source_eq_of_renderText rfl rfl h
    simp only [ofTokens, Table.scan, Table.language_builtin] at hlanguage hsource
    subst hlanguage hsource
    rw [hscan]
    exact ⟨rfl, rfl⟩

/-- The source looks like the end of a report, and the times are a microsecond apart. -/
theorem renderText_identifies_imitation :
    let source := "\n\nTOKENS:\n\nSTATISTICS:\nTotal tokens: 0\nLines of code: 1\n"
    let later : Timestamp := ⟨0, 0, 1000, by decide, by decide, by decide⟩
    let pipeline : Pipeline := ⟨.fixed, ⟨true⟩⟩
    let tokens := ((Table.builtin .c).scan .fixed source).tokens
    let a := (pipeline.analyzeSource source .c).value ⟨.epoch, none⟩
    let b := (pipeline.analyzeSource source .c).value ⟨later, none⟩
    Timestamp.epoch ≠ later ∧
      (ofTokens .c .epoch source tokens).renderText
        = (ofTokens .c later source tokens).renderText ∧
      Timestamp.epoch.formatMillis = later.formatMillis ∧
      a.renderText = b.renderText ∧
      a.tokens = b.tokens ∧ a.statistics = b.statistics := by
  intro source later pipeline tokens a b
  have htime : Timestamp.epoch.formatMillis = later.formatMillis :=
    Timestamp.formatMillis_eq rfl rfl (by decide)
  have hrender := renderText_ofTokens_of_formatMillis htime .c source tokens
  have hanalyze : a.renderText = b.renderText := by
    simp only [a, b, Pipeline.value_analyzeSource]
    exact renderText_ofTokens_of_formatMillis htime _ _ _
  refine ⟨by decide, hrender, ?_, hanalyze, ?_⟩
  · exact (renderText_identifies.1 _ _ _ _ _ _ _ _ hrender).2.1
  · exact renderText_identifies.2 _ _ _ _ _ _ _ _ rfl hanalyze

end Analysis
end TableLexer
