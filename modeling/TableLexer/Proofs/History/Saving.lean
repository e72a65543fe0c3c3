import TableLexer.Proofs.History.Calls
import TableLexer.Proofs.Json.Layouts
import TableLexer.Proofs.Json.Records
import TableLexer.Proofs.Time.Exact

/-!
# Saving a history

A history is saved as compact JSON, and loading reads the text and takes the record apart.
Nothing is lost on the way, whatever the sources hold and however odd the timestamps are: a
record of JSON values comes back since its parts do, and its text comes back since it is
one of the spellings of the record.

What is loaded has to be in the range of the numbers that a saved history may hold.  The
cursor is, since it is on an entry and there are no more entries than the capacity; for the
capacity itself that is the one condition (`saving_loses_nothing`).
-/

namespace TableLexer

/-! ## Entries -/

namespace HistoryEntry

theorem ofJson?_toJson
    (e : HistoryEntry) :
    ofJson? e.toJson = some e := by
  have hrecord :
      e.toJson.toRecord? ["source", "language", "timestamp"]
        =
      some
        [some (.ofText e.source), some e.language.toJson,
         some (.ofText e.timestamp.formatExact)] :=
    Json.toRecord?_ofFields (by simp)
  simp [ofJson?, hrecord, Json.ofText, Json.toText?, Language.ofJson?_toJson,
    Timestamp.parse?_formatExact]

theorem writable_toJson
    (e : HistoryEntry) :
    Json.Writable e.toJson := by
  refine Json.writable_ofFields ?_
  intro f hf
  simp only [List.mem_cons, List.not_mem_nil, or_false] at hf
  rcases hf with rfl | rfl | rfl
  · exact Json.writable_ofText e.source
  · exact Json.writable_ofText e.language.name
  · exact Json.writable_ofText e.timestamp.formatExact

end HistoryEntry

/-! ## Histories -/

namespace History

theorem cursorOf?_ofOption
    {current : Option Nat}
    (h : ∀ i, current = some i → i ≤ maxSaved) :
    cursorOf? (some (.ofOption .ofNat current)) = some current := by
  cases current with
  | none =>
      rfl
  | some i =>
      exact congrArg (Option.map some) (Json.toNatUpTo?_ofNat (h i rfl))

theorem ofJson?_toJson
    {h : History}
    (hcapacity : h.capacity ≤ maxSaved)
    (hcurrent : ∀ i, h.current = some i → i ≤ maxSaved) :
    ofJson? h.toJson = some h := by
  have hrecord :
      h.toJson.toRecord? ["entries", "capacity", "current"]
        =
      some
        [some (.array (h.entries.map HistoryEntry.toJson)), some (.ofNat h.capacity),
         some (.ofOption .ofNat h.current)] :=
    Json.toRecord?_ofFields (by simp)
  have hentries :
      (h.entries.map HistoryEntry.toJson).mapM HistoryEntry.ofJson? =
        some (h.entries.map id) :=
    Json.mapM_eq_some fun e _ => e.ofJson?_toJson
  simp [ofJson?, hrecord, Json.toElements?, hentries, Json.toNatUpTo?_ofNat hcapacity,
    cursorOf?_ofOption hcurrent]

theorem writable_toJson
    (h : History) :
    Json.Writable h.toJson := by
  refine Json.writable_ofFields ?_
  intro f hf
  simp only [List.mem_cons, List.not_mem_nil, or_false] at hf
  rcases hf with rfl | rfl | rfl
  · refine .array ?_
    intro v hv
    obtain ⟨e, -, rfl⟩ := List.mem_map.1 hv
    exact e.writable_toJson
  · exact Json.writable_ofNat h.capacity
  · cases hcurrent : h.current with
    | none =>
        exact .null
    | some i =>
        exact Json.writable_ofNat i

/-- A history whose numbers may be saved is loaded as it was saved. -/
theorem load?_save
    {h : History}
    (hcapacity : h.capacity ≤ maxSaved)
    (hcurrent : ∀ i, h.current = some i → i ≤ maxSaved) :
    load? h.save = some h := by
  rw [load?, save, Json.read?_compact h.writable_toJson, Option.bind_some,
    ofJson?_toJson hcapacity hcurrent]

/-- A history has no more entries than its capacity allows. -/
theorem length_afterAll_le
    (capacity : Nat) (calls : List Call) :
    ((withCapacity capacity).afterAll calls).entries.length ≤ max capacity 1 := by
  rw [entries_afterAll, length_rtake]
  exact Nat.min_le_left _ _

/--
Saving loses nothing.  After any calls on a new history of a capacity that can be saved,
the saved text is loaded as the same history: with the same entries, sources, languages and
timestamps to the nanosecond, the same capacity and the same cursor.  So saving and loading
between two sequences of calls changes nothing of what comes of them.
-/
theorem saving_loses_nothing
    (capacity : Nat)
    (hcapacity : capacity ≤ maxSaved)
    (calls : List Call) :
    let h := (withCapacity capacity).afterAll calls
    load? h.save = some h ∧
    ∀ later, (load? h.save).map (fun loaded => loaded.afterAll later)
      = some ((withCapacity capacity).afterAll (calls ++ later)) := by
  intro h
  have hroom : max capacity 1 ≤ maxSaved := Nat.max_le.2 ⟨hcapacity, by decide⟩
  have hlength : h.entries.length ≤ max capacity 1 := length_afterAll_le capacity calls
  have hloaded : load? h.save = some h := by
    refine load?_save ?_ ?_
    · have hsame : h.capacity = max capacity 1 :=
        capacity_afterAll (withCapacity capacity) calls
      omega
    · intro i hi
      have hentry : i < h.entries.length := (cursorFits_afterAll capacity calls).2 i hi
      omega
  refine ⟨hloaded, ?_⟩
  intro later
  rw [hloaded]
  exact congrArg some List.foldl_append.symm

/-- An entry with characters that are escaped, in the smallest history there is. -/
theorem saving_loses_nothing_escaped :
    let h := (withCapacity 0).afterAll
      [.record ⟨"a \"b\"\n\x01", .css, .epoch⟩, .record ⟨"\\é", .html, .epoch⟩, .restore 0]
    0 ≤ maxSaved ∧
    load? h.save = some h ∧
    ∀ later, (load? h.save).map (fun loaded => loaded.afterAll later)
      = some ((withCapacity 0).afterAll
          ([.record ⟨"a \"b\"\n\x01", .css, .epoch⟩, .record ⟨"\\é", .html, .epoch⟩,
            .restore 0] ++ later)) :=
  ⟨by decide, saving_loses_nothing 0 (by decide) _⟩

end History
end TableLexer
