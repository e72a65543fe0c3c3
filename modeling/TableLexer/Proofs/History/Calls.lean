import Mathlib.Data.List.Induction
import TableLexer.History
import TableLexer.Proofs.Latest

/-!
# Calls on a history

Three calls change a history: a source is recorded, an entry is restored, or everything
is cleared.  A list says what should come of them.  The *log* of a sequence of calls has
the entries that were recorded since the last clearing, without those of a blank source
and without those that repeat the source before them in the log.

A history of some capacity is the end of its log (`entries_afterAll`).  The step is that
an entry which goes into the log goes to the end of the history, and the oldest entries go
until there is a place for it (`makeRoom_eq_rtake`, `entries_record_of_accepts`); the entry
that a repeat is told by is the last one of the log and of the history, since even the
smallest history keeps one.  The cursor is kept by one step as well (`CursorFits.after`).
A history is one that could be made.  At a capacity for which no memory can be laid out,
making it panics, and there is no history for the calls to be about.
-/

namespace TableLexer
namespace History

/-- A call that may change a history. -/
inductive Call where
  | record (e : HistoryEntry)
  | restore (index : Nat)
  | clear
deriving DecidableEq

/-- The history after a call. -/
def after (h : History) : Call → History
  | .record e => (h.record e).1
  | .restore index => (h.restore index).1
  | .clear => h.clear

def afterAll (h : History) (calls : List Call) : History :=
  calls.foldl after h

theorem afterAll_concat
    (h : History)
    (calls : List Call) (call : Call) :
    h.afterAll (calls ++ [call]) = (h.afterAll calls).after call := by
  simp [afterAll]

/-! ## The log -/

def Call.entry? : Call → Option HistoryEntry
  | .record e => some e
  | .restore _ | .clear => none

/-- The entries that were to be recorded since the last clearing. -/
def offered (calls : List Call) : List HistoryEntry :=
  (calls.rtakeWhile fun call => call != .clear).filterMap Call.entry?

/-- The source has nothing but blank characters. -/
def BlankSource (source : String) : Prop :=
  ∀ c ∈ source.toList, Text.isBlank c = true

instance (source : String) : Decidable (BlankSource source) :=
  decidable_of_iff (source.toList.all Text.isBlank = true) List.all_eq_true

/-- The entries without the blank ones and without repeats of the one kept before, whose
source is `last` at first. -/
def keep (last : Option String) : List HistoryEntry → List HistoryEntry
  | [] => []
  | e :: rest =>
    if BlankSource e.source ∨ last = some e.source then
      keep last rest
    else
      e :: keep (some e.source) rest

/-- All that calls put on record since the last clearing. -/
def log (calls : List Call) : List HistoryEntry :=
  keep none (offered calls)

/-- Whether one more entry is kept depends on the one kept last. -/
theorem keep_concat
    (last : Option String)
    (es : List HistoryEntry) (e : HistoryEntry) :
    keep last (es ++ [e])
      =
    if BlankSource e.source
        ∨ ((keep last es).getLast?.map HistoryEntry.source).or last = some e.source then
      keep last es
    else
      keep last es ++ [e] := by
  induction es generalizing last with
  | nil =>
      rfl
  | cons d es ih =>
      rw [List.cons_append, keep, keep]
      split
      · exact ih last
      · rw [ih (some d.source), List.getLast?_cons]
        cases hkept : (keep (some d.source) es).getLast? <;> simp <;> split <;> rfl

theorem log_concat_record
    (calls : List Call) (e : HistoryEntry) :
    log (calls ++ [.record e])
      =
    if BlankSource e.source
        ∨ (log calls).getLast?.map HistoryEntry.source = some e.source then
      log calls
    else
      log calls ++ [e] := by
  have hoffered : offered (calls ++ [.record e]) = offered calls ++ [e] := by
    simp [offered, Call.entry?]
  rw [log, hoffered, keep_concat, Option.or_none]
  rfl

theorem log_concat_restore
    (calls : List Call) (index : Nat) :
    log (calls ++ [.restore index]) = log calls := by
  simp [log, offered, List.filterMap_cons, Call.entry?]

theorem log_concat_clear
    (calls : List Call) :
    log (calls ++ [.clear]) = [] := by
  simp [log, offered, keep]

/-! ## The end of the log -/

theorem accepts_iff
    {h : History} {source : String} :
    h.accepts source = true
      ↔
    ¬ (BlankSource source ∨ h.latest?.map HistoryEntry.source = some source) := by
  cases hlatest : h.latest? <;>
    simp [accepts, hlatest, BlankSource, Text.allBlank, not_or]

theorem record_of_accepts
    {h : History} {e : HistoryEntry}
    (ha : h.accepts e.source = true) :
    h.record e
      =
    ({ h with entries := h.kept ++ [e], current := some h.kept.length }, true) := by
  rw [record, if_pos ha]

theorem record_of_not_accepts
    {h : History} {e : HistoryEntry}
    (ha : ¬ h.accepts e.source = true) :
    h.record e = (h, false) := by
  rw [record, if_neg ha]

@[simp] theorem capacity_after
    (h : History) (call : Call) :
    (h.after call).capacity = h.capacity := by
  cases call with
  | record e =>
      by_cases ha : h.accepts e.source = true
      · simp [after, record_of_accepts ha]
      · simp [after, record_of_not_accepts ha]
  | restore index =>
      rw [after, restore]
      split <;> rfl
  | clear =>
      rfl

theorem capacity_afterAll
    (h : History) (calls : List Call) :
    (h.afterAll calls).capacity = h.capacity := by
  induction calls using List.reverseRecOn with
  | nil =>
      rfl
  | append_singleton calls call ih =>
      rw [afterAll_concat, capacity_after, ih]

/-- The oldest entries go until one of the places is free; so the last ones stay, as many
as there are other places. -/
theorem makeRoom_eq_rtake
    {places : Nat}
    (hplace : 0 < places)
    (es : List HistoryEntry) :
    makeRoom places es = es.rtake (places - 1) := by
  induction es with
  | nil =>
      simp [makeRoom]
  | cons e rest ih =>
      rw [makeRoom]
      split
      · have hone : (e :: rest).length - (places - 1) =
            rest.length - (places - 1) + 1 := by
          rw [List.length_cons]
          omega
        rw [ih, List.rtake, List.rtake, hone, List.drop_succ_cons]
      · have hnone : (e :: rest).length - (places - 1) = 0 := by
          rw [List.length_cons]
          omega
        rw [List.rtake, hnone, List.drop_zero]

/-- To make room for one more entry, the last ones stay that leave a place, however many
there are. -/
theorem kept_eq_rtake
    (h : History) :
    h.kept = h.entries.rtake (max h.capacity 1 - 1) :=
  makeRoom_eq_rtake (by omega) h.entries

/-- Whatever a history holds, an entry that is recorded is the last one of it, behind the
latest of those before. -/
theorem entries_record_of_accepts
    {h : History} {e : HistoryEntry}
    (ha : h.accepts e.source = true) :
    (h.record e).1.entries = (h.entries ++ [e]).rtake (max h.capacity 1) := by
  obtain ⟨n, hn⟩ : ∃ n, max h.capacity 1 = n + 1 := ⟨max h.capacity 1 - 1, by omega⟩
  rw [record_of_accepts ha, kept_eq_rtake, hn, List.rtake_concat_succ]
  rfl

/-- The entries of a history are the last ones of the log. -/
theorem entries_afterAll
    (capacity : Nat) (calls : List Call) :
    ((withCapacity capacity).afterAll calls).entries =
      (log calls).rtake (max capacity 1) := by
  induction calls using List.reverseRecOn with
  | nil =>
      simp [afterAll, withCapacity, log, offered, keep]
  | append_singleton calls call ih =>
      have hcapacity : ((withCapacity capacity).afterAll calls).capacity =
          max capacity 1 :=
        capacity_afterAll (withCapacity capacity) calls
      rw [afterAll_concat]
      generalize (withCapacity capacity).afterAll calls = h at ih hcapacity ⊢
      cases call with
      | record e =>
          have hlatest : h.latest? = (log calls).getLast? := by
            rw [latest?, ih, getLast?_rtake (by omega)]
          have hroom : max h.capacity 1 = max capacity 1 := by omega
          rw [log_concat_record, ← hlatest, after]
          by_cases ha : h.accepts e.source = true
          · rw [if_neg (accepts_iff.1 ha), entries_record_of_accepts ha, ih, hroom,
              rtake_rtake_concat]
          · rw [record_of_not_accepts ha]
            rw [accepts_iff, not_not] at ha
            rw [if_pos ha, ih]
      | restore index =>
          rw [log_concat_restore, ← ih, after, restore]
          split <;> rfl
      | clear =>
          simp [log_concat_clear, after, clear]

/-! ## The cursor -/

/-- The cursor is on an entry, unless there is none. -/
def CursorFits (h : History) : Prop :=
  (h.current = none ↔ h.entries = []) ∧
    ∀ i, h.current = some i → i < h.entries.length

theorem restore_eq
    (h : History) (index : Nat) :
    h.restore index
      =
    ({ h with current := if index < h.entries.length then some index else h.current },
      h.entries[index]?) := by
  rw [restore, get?]
  by_cases hindex : index < h.entries.length
  · simp [hindex]
  · simp [hindex]

/-- Wherever the cursor was, a recorded entry takes it. -/
theorem cursorFits_record_of_accepts
    {h : History} {e : HistoryEntry}
    (ha : h.accepts e.source = true) :
    (h.record e).1.CursorFits := by
  rw [record_of_accepts ha]
  constructor
  · simp
  · intro i hi
    simp at hi ⊢
    omega

theorem CursorFits.after
    {h : History}
    (hfits : h.CursorFits)
    (call : Call) :
    (h.after call).CursorFits := by
  cases call with
  | record e =>
      by_cases ha : h.accepts e.source = true
      · exact cursorFits_record_of_accepts ha
      · rw [History.after, record_of_not_accepts ha]
        exact hfits
  | restore index =>
      rw [History.after, restore_eq]
      by_cases hindex : index < h.entries.length
      · have hne : h.entries ≠ [] := List.ne_nil_of_length_pos (by omega)
        constructor
        · simp [hindex, hne]
        · intro i hi
          simp [hindex] at hi ⊢
          omega
      · simpa [hindex] using hfits
  | clear =>
      exact ⟨by simp [History.after, clear], by simp [History.after, clear]⟩

theorem CursorFits.afterAll
    {h : History}
    (hfits : h.CursorFits)
    (calls : List Call) :
    (h.afterAll calls).CursorFits := by
  induction calls using List.reverseRecOn with
  | nil =>
      exact hfits
  | append_singleton calls call ih =>
      rw [afterAll_concat]
      exact ih.after call

theorem cursorFits_afterAll
    (capacity : Nat) (calls : List Call) :
    ((withCapacity capacity).afterAll calls).CursorFits :=
  CursorFits.afterAll ⟨by simp [withCapacity], by simp [withCapacity]⟩ calls

/--
A history follows its log.  After any calls on a new history of some capacity, 0 included,
its entries are the last ones of the log, as many as the capacity allows, and one at least;
the capacity stays.  The cursor is on an entry, unless there is none.  Recording an entry
succeeds exactly if it goes into the log, and then the cursor is on it; otherwise nothing
changes.  Restoring gives the entry at an index and moves the cursor there, or changes
nothing if there is none.  Clearing gives the new history back.
-/
theorem history_follows_log
    (capacity : Nat) (calls : List Call) :
    let h := (withCapacity capacity).afterAll calls
    h.entries = (log calls).rtake (max capacity 1) ∧
    h.capacity = max capacity 1 ∧
    (h.current = none ↔ h.entries = []) ∧
    (∀ i, h.current = some i → i < h.entries.length) ∧
    (∀ e,
      ((h.record e).2 = true ↔ log (calls ++ [.record e]) = log calls ++ [e]) ∧
      ((h.record e).2 = true → (h.record e).1.current =
        some ((h.record e).1.entries.length - 1)) ∧
      ((h.record e).2 = false →
        log (calls ++ [.record e]) = log calls ∧ (h.record e).1 = h)) ∧
    (∀ i,
      (h.restore i).2 = h.entries[i]? ∧
      (h.restore i).1
        = { h with current := if i < h.entries.length then some i else h.current }) ∧
    h.clear = withCapacity capacity := by
  intro h
  have hentries : h.entries = (log calls).rtake (max capacity 1) :=
    entries_afterAll capacity calls
  have hcapacity : h.capacity = max capacity 1 :=
    capacity_afterAll (withCapacity capacity) calls
  have hfits : h.CursorFits := cursorFits_afterAll capacity calls
  have hlatest : h.latest? = (log calls).getLast? := by
    rw [latest?, hentries, getLast?_rtake (by omega)]
  refine ⟨hentries, hcapacity, hfits.1, hfits.2, ?_, ?_, ?_⟩
  · intro e
    have hlog := log_concat_record calls e
    rw [← hlatest] at hlog
    by_cases ha : h.accepts e.source = true
    · rw [if_neg (accepts_iff.1 ha)] at hlog
      rw [record_of_accepts ha]
      simp [hlog]
    · rw [record_of_not_accepts ha]
      rw [accepts_iff, not_not] at ha
      rw [if_pos ha] at hlog
      simp [hlog]
  · intro i
    rw [restore_eq]
    exact ⟨rfl, rfl⟩
  · rw [clear, hcapacity]
    rfl

end History
end TableLexer
