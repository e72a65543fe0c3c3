import TableLexer.Proofs.Json.Tokens
import TableLexer.Proofs.Report.Identity
import TableLexer.Proofs.Statistics.Counts

/-!
# What a JSON report says

A JSON report is read back as one record, and nothing of the analysis is missing or changed
in it: the source is there character by character, every token is taken out of its record
again, and the statistics are those of the tokens.  The numbers of the kinds are one
object, which the text report shows in its compact form on its last line but one.

Reading goes through the spellings of a value, so only the parts have to be looked at:
every string has a text, and every number is written as numbers are.
-/

namespace TableLexer

/-! ## Statistics -/

/-- The number of tokens of each kind that occurs, in the order in which the kinds are
first met. -/
def kindTable (tokens : List Token) : Json :=
  let kinds := tokens.map Token.kind
  .ofFields (kinds.eraseDups.map fun k => (k.name, .ofNat (kinds.count k)))

/-- The value names the most frequent kind and how often it occurs; of equally frequent
kinds it is the one first met.  Without tokens it is `null`. -/
def NamesDominant (tokens : List Token) (v : Json) : Prop :=
  let kinds := tokens.map Token.kind
  (tokens = [] ∧ v = .null) ∨
  ∃ before k behind,
    kinds.eraseDups = before ++ k :: behind ∧
    (∀ j ∈ before, kinds.count j < kinds.count k) ∧
    (∀ j ∈ behind, kinds.count j ≤ kinds.count k) ∧
    v = .ofFields [("kind", .ofText k.name), ("count", .ofNat (kinds.count k))]

theorem toJson_ofKinds
    (tokens : List Token) :
    (KindCounts.ofKinds (tokens.map Token.kind)).toJson = kindTable tokens := by
  rw [KindCounts.toJson, KindCounts.entries_ofKinds, List.map_map]
  rfl

theorem namesDominant_dominantJson
    (tokens : List Token) :
    NamesDominant tokens
      (Statistics.dominantJson (KindCounts.ofKinds (tokens.map Token.kind)).dominant) := by
  rcases KindCounts.dominant_cases (KindCounts.ofKinds (tokens.map Token.kind)) with
    ⟨hnone, hentries⟩ | ⟨before, e, behind, hsome, hentries, hbefore, hbehind⟩
  · rw [hnone]
    rw [KindCounts.entries_ofKinds, List.map_eq_nil_iff] at hentries
    cases tokens with
    | nil =>
        exact Or.inl ⟨rfl, rfl⟩
    | cons t tokens =>
        rw [List.map_cons, List.eraseDups_cons] at hentries
        cases hentries
  · rw [hsome]
    rw [KindCounts.entries_ofKinds] at hentries
    obtain ⟨front, rest, hkinds, rfl, hrest⟩ := List.map_eq_append_iff.1 hentries
    obtain ⟨k, back, rfl, rfl, rfl⟩ := List.map_eq_cons_iff.1 hrest
    refine Or.inr ⟨front, k, back, hkinds, ?_, ?_, rfl⟩
    · exact fun j hj => hbefore _ (List.mem_map_of_mem hj)
    · exact fun j hj => hbehind _ (List.mem_map_of_mem hj)

theorem writable_kindTable
    (tokens : List Token) :
    Json.Writable (kindTable tokens) := by
  refine Json.writable_ofFields ?_
  intro f hf
  obtain ⟨k, -, rfl⟩ := List.mem_map.1 hf
  exact Json.writable_ofNat _

theorem NamesDominant.writable
    {tokens : List Token} {v : Json}
    (h : NamesDominant tokens v) :
    Json.Writable v := by
  rcases h with ⟨-, rfl⟩ | ⟨before, k, behind, -, -, -, rfl⟩
  · exact .null
  · exact Json.writable_ofFields (by simp [Json.writable_ofText, Json.writable_ofNat])

/-- No two kinds have the same name, so no key is there twice. -/
theorem nodup_kindTable_names
    (tokens : List Token) :
    ((tokens.map Token.kind).eraseDups.map Kind.name).Nodup := by
  refine (nodup_eraseDups _).map ?_
  intro j k hname
  have hj := Kind.ofJson?_toJson j
  rw [Kind.toJson, hname] at hj
  exact Option.some.inj (hj.symm.trans (Kind.ofJson?_toJson k))

/-! ## Reports -/

namespace Analysis

theorem writable_toJson
    (l : Language) (now : Timestamp) (source : String) (tokens : List Token) :
    Json.Writable (ofTokens l now source tokens).toJson := by
  have htokens : Json.Writable (.array (tokens.map Token.toJson)) := by
    refine .array ?_
    intro v hv
    obtain ⟨t, -, rfl⟩ := List.mem_map.1 hv
    exact t.writable_toJson
  have hstatistics : Json.Writable (Statistics.ofTokens tokens source).toJson := by
    refine Json.writable_ofFields ?_
    simp only [Statistics.ofTokens, toJson_ofKinds]
    simp [Json.writable_ofNat, writable_kindTable,
      (namesDominant_dominantJson tokens).writable]
  refine Json.writable_ofFields ?_
  simp [ofTokens, Language.toJson, Json.writable_ofText, htokens, hstatistics]

/-- The numbers of the kinds are on the last line but one of the text report. -/
theorem exists_renderText
    (a : Analysis) :
    ∃ before,
      a.renderText
        = before ++ "\nToken types: " ++ a.statistics.counts.render ++
          "\nMost common token: " ++ a.statistics.dominantSummary ++ "\n" := by
  unfold renderText statisticsText
  simp only [← String.append_assoc]
  exact ⟨_, rfl⟩

end Analysis

/--
The JSON report of an analysis says all of it, whatever the source and the tokens are.  It
is read as one record.  The language is found again from its identifier, and the source is
the exact text; the tokens taken out of their records are those of the analysis, in their
order.  The statistics give the number of tokens and of lines, the dominant kind, and one
entry for every kind that occurs, with its exact number, the kinds in the order in which
they are first met.  The text report has the compact form of the same object on its last
line but one.
-/
theorem json_report_is_faithful
    (l : Language) (now : Timestamp) (source : String) (tokens : List Token)
    (hrange : ∀ t ∈ tokens, t.InRange) :
    let a := Analysis.ofTokens l now source tokens
    ∃ elements dominant before,
      Json.read? (a.render .json)
        = some (.ofFields
            [("language", .ofText l.name), ("timestamp", .ofText now.formatMillis),
             ("source", .ofText source), ("tokens", .array elements),
             ("statistics", .ofFields
                [("total_count", .ofNat tokens.length),
                 ("counts_by_kind", kindTable tokens), ("dominant_kind", dominant),
                 ("line_count", .ofNat (countLines source))])]) ∧
      Language.ofJson? (.ofText l.name) = some l ∧
      Language.parse l.name = .ok l ∧
      elements.mapM Token.ofJson? = some tokens ∧
      NamesDominant tokens dominant ∧
      ((tokens.map Token.kind).eraseDups.map Kind.name).Nodup ∧
      a.renderText
        = before ++ "\nToken types: " ++ (kindTable tokens).compact ++
          "\nMost common token: " ++ a.statistics.dominantSummary ++ "\n" ∧
      Text.newlines (kindTable tokens).compact.toList = 0 ∧
      Text.newlines a.statistics.dominantSummary.toList = 0 := by
  intro a
  obtain ⟨before, htext⟩ := a.exists_renderText
  have hcounts : a.statistics.counts.render = (kindTable tokens).compact :=
    congrArg Json.compact (toJson_ofKinds tokens)
  refine ⟨tokens.map Token.toJson, _, before, ?_, l.ofJson?_toJson, l.parse_name, ?_,
    namesDominant_dominantJson tokens, nodup_kindTable_names tokens, ?_, ?_,
    a.statistics.newlines_dominantSummary⟩
  · refine (Json.read?_indented (Analysis.writable_toJson l now source tokens)).trans ?_
    rw [← toJson_ofKinds]
    rfl
  · have htaken : (tokens.map Token.toJson).mapM Token.ofJson? = some (tokens.map id) :=
      Json.mapM_eq_some fun t ht => Token.ofJson?_toJson (hrange t ht)
    rwa [List.map_id] at htaken
  · rw [← hcounts]
    exact htext
  · rw [← hcounts]
    exact a.statistics.counts.newlines_render

/-- Quotes, backslashes and control characters come back as they were. -/
theorem json_report_is_faithful_escaped :
    let source := "s = \"\\\x00\"\n"
    let tokens : List Token :=
      [⟨.identifier, "s", 1, 0⟩, ⟨.operator, "=", 1, 2⟩, ⟨.string, "\"\\\x00\"", 1, 4⟩]
    (∀ t ∈ tokens, t.InRange) ∧
    ∃ fields elements,
      Json.read? ((Analysis.ofTokens .python .epoch source tokens).render .json)
        = some (.ofFields fields) ∧
      ("source", .ofText source) ∈ fields ∧
      ("tokens", .array elements) ∈ fields ∧
      elements.mapM Token.ofJson? = some tokens := by
  intro source tokens
  have hrange : ∀ t ∈ tokens, t.InRange := by
    simp [tokens, Token.InRange, maxLine, maxPosition]
  obtain ⟨elements, dominant, before, hread, -, -, htaken, -⟩ :=
    json_report_is_faithful .python .epoch source tokens hrange
  exact ⟨hrange, _, elements, hread, by simp, by simp, htaken⟩

end TableLexer
