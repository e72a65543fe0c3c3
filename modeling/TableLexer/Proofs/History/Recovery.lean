import TableLexer.Proofs.History.Saving

/-!
# A loaded history recovers its bound

Loading checks nothing, so any value can be there at first: more entries than the capacity
allows, blank and repeated ones, a capacity of 0, and a cursor on none of the entries.  An
entry that is not recorded leaves all this as it is.  The first one that is recorded ends
it in one step: the oldest entries go one after the other until there is a place for it,
however many that are, and the cursor is put on it (`entries_record_of_accepts`,
`cursorFits_record_of_accepts`).

From there on every call keeps the bound (`WithinCapacity.after`) and the cursor
(`CursorFits.after`), as it does for a history that was new.
-/

namespace TableLexer
namespace History

/-- There are no more entries than the capacity allows, and one is always allowed. -/
def WithinCapacity (h : History) : Prop :=
  h.entries.length ≤ max h.capacity 1

/-- However many entries there were, recording one leaves no more than the capacity
allows. -/
theorem withinCapacity_record_of_accepts
    {h : History} {e : HistoryEntry}
    (ha : h.accepts e.source = true) :
    (h.record e).1.WithinCapacity := by
  have hcapacity : (h.record e).1.capacity = h.capacity := capacity_after h (.record e)
  rw [WithinCapacity, hcapacity, entries_record_of_accepts ha, length_rtake]
  exact Nat.min_le_left _ _

theorem WithinCapacity.after
    {h : History}
    (hwithin : h.WithinCapacity)
    (call : Call) :
    (h.after call).WithinCapacity := by
  cases call with
  | record e =>
      by_cases ha : h.accepts e.source = true
      · exact withinCapacity_record_of_accepts ha
      · rw [History.after, record_of_not_accepts ha]
        exact hwithin
  | restore index =>
      rw [History.after, restore_eq]
      exact hwithin
  | clear =>
      exact Nat.zero_le _

theorem WithinCapacity.afterAll
    {h : History}
    (hwithin : h.WithinCapacity)
    (calls : List Call) :
    (h.afterAll calls).WithinCapacity := by
  induction calls using List.reverseRecOn with
  | nil =>
      exact hwithin
  | append_singleton calls call ih =>
      rw [afterAll_concat]
      exact ih.after call

/-- A recorded entry is the latest one. -/
theorem latest?_record_of_accepts
    {h : History} {e : HistoryEntry}
    (ha : h.accepts e.source = true) :
    (h.record e).1.latest? = some e := by
  rw [latest?, entries_record_of_accepts ha, getLast?_rtake (by omega),
    List.getLast?_concat]

/--
Any history recovers its bound.  Whatever entries, capacity and cursor it has, an entry is
recorded unless its source is blank or the one of the latest entry.  If it is not recorded,
nothing changes.  If it is, the entries are the last ones of those before and the new one,
as many as the capacity allows and one at least; the cursor is on the new entry, which is
the latest, and the capacity stays.  And from then on no calls lead to more entries than
that, or to a cursor that is on none of them.
-/
theorem history_recovers_bound
    (h : History) (e : HistoryEntry) :
    ((h.record e).2 = true ↔
      ¬ (BlankSource e.source ∨ h.latest?.map HistoryEntry.source = some e.source)) ∧
    ((h.record e).2 = false → (h.record e).1 = h) ∧
    ((h.record e).2 = true →
      let recorded := (h.record e).1
      recorded.entries = (h.entries ++ [e]).rtake (max h.capacity 1) ∧
      1 ≤ recorded.entries.length ∧
      recorded.entries.length ≤ max h.capacity 1 ∧
      recorded.current = some (recorded.entries.length - 1) ∧
      recorded.latest? = some e ∧
      recorded.capacity = h.capacity ∧
      ∀ later,
        let reached := recorded.afterAll later
        reached.entries.length ≤ max h.capacity 1 ∧
        ∀ i, reached.current = some i → i < reached.entries.length) := by
  by_cases ha : h.accepts e.source = true
  · have hcapacity : (h.record e).1.capacity = h.capacity := capacity_after h (.record e)
    have hwithin := withinCapacity_record_of_accepts ha
    have hfits := cursorFits_record_of_accepts ha
    have hrecorded : (h.record e).2 = true := by rw [record_of_accepts ha]
    refine ⟨⟨fun _ => accepts_iff.1 ha, fun _ => hrecorded⟩, ?_, fun _ => ?_⟩
    · rw [hrecorded]
      rintro ⟨⟩
    · refine ⟨entries_record_of_accepts ha, ?_, ?_, ?_,
        latest?_record_of_accepts ha, hcapacity, ?_⟩
      · simp [record_of_accepts ha]
      · simpa [WithinCapacity, hcapacity] using hwithin
      · simp [record_of_accepts ha]
      · intro later reached
        have hroom : reached.entries.length ≤ max reached.capacity 1 :=
          hwithin.afterAll later
        rw [capacity_afterAll, hcapacity] at hroom
        exact ⟨hroom, (hfits.afterAll later).2⟩
  · have hrefused := record_of_not_accepts ha
    rw [accepts_iff] at ha
    rw [hrefused]
    refine ⟨⟨?_, fun hkept => absurd hkept ha⟩, fun _ => rfl, ?_⟩
    · rintro ⟨⟩
    · rintro ⟨⟩

/-- A saved history of capacity 0 with four entries and a cursor far behind them. -/
theorem history_recovers_bound_overfull :
    let repeated : HistoryEntry := ⟨"a", .c, .epoch⟩
    let h : History := ⟨[repeated, ⟨" ", .css, .epoch⟩, repeated, repeated], 0, some 7⟩
    let e : HistoryEntry := ⟨"b", .html, .epoch⟩
    load? h.save = some h ∧
    (h.record repeated).2 = false ∧
    (h.record repeated).1 = h ∧
    (h.record e).2 = true ∧
    (h.record e).1.entries = (h.entries ++ [e]).rtake (max 0 1) ∧
    (h.record e).1.current = some ((h.record e).1.entries.length - 1) ∧
    ∀ later, ((h.record e).1.afterAll later).entries.length ≤ max 0 1 := by
  intro repeated h e
  have hloaded : load? h.save = some h := by
    refine load?_save (Nat.zero_le _) ?_
    rintro i ⟨⟩
    simp [maxSaved]
  have hrefused : (h.record repeated).2 = false := by decide
  have hkept : (h.record e).2 = true := by decide
  obtain ⟨-, hunchanged, -⟩ := history_recovers_bound h repeated
  obtain ⟨hentries, -, -, hcurrent, -, -, hlater⟩ := (history_recovers_bound h e).2.2 hkept
  exact ⟨hloaded, hrefused, hunchanged hrefused, hkept, hentries, hcurrent,
    fun later => (hlater later).1⟩

end History
end TableLexer
