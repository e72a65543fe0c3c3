import Mathlib.Data.List.Induction
import TableLexer.Diagnostic.Buffer
import TableLexer.Proofs.Latest

/-!
# What a buffer has kept

Events come to a buffer in two ways: through a service, which holds back those that are
less urgent than its threshold, and directly.  All that have come since the buffer was
cleared are the *arrivals* of the calls.  A buffer of some capacity keeps the last ones of
its arrivals, as many as it has places, and one at least (`events_afterAll`).

The buffer drops its oldest event only when it has exactly as many as it has places.  So
the step (`events_push`) needs that there are never more, and that comes back from the
arrivals that are kept.  What the buffer answers is read off its events: the errors, the
codes, and the summary, which counts every event once under its level (`of_summary`).
-/

namespace TableLexer

namespace EventSummary

/-- The number of events of a level. -/
def of (s : EventSummary) : Level → Nat
  | .error => s.errors
  | .warning => s.warnings
  | .info => s.infos
  | .debug => s.debugs

theorem of_count
    (s : EventSummary)
    (counted level : Level) :
    (s.count counted).of level = s.of level + if counted = level then 1 else 0 := by
  cases counted <;> cases level <;> rfl

/-- One more event is one more of its level, and so one more in all. -/
theorem total_count
    (s : EventSummary)
    (level : Level) :
    (s.count level).total = s.total + 1 := by
  cases level <;> simp only [count, total] <;> omega

theorem of_foldl
    (es : List Event)
    (s : EventSummary)
    (level : Level) :
    (es.foldl (fun s e => s.count e.level) s).of level
      =
    s.of level + es.countP fun e => e.level = level := by
  induction es generalizing s with
  | nil =>
      rfl
  | cons e es ih =>
      rw [List.foldl_cons, ih, of_count, List.countP_cons]
      simp only [decide_eq_true_eq]
      omega

theorem total_foldl
    (es : List Event)
    (s : EventSummary) :
    (es.foldl (fun s e => s.count e.level) s).total = s.total + es.length := by
  induction es generalizing s with
  | nil =>
      rfl
  | cons e es ih =>
      rw [List.foldl_cons, ih, total_count, List.length_cons]
      omega

end EventSummary

namespace EventBuffer

/-- A call that may change a buffer: an event is emitted through the service or logged past
it, or the buffer is cleared. -/
inductive Call where
  | emit (e : Event)
  | log (e : Event)
  | clear
deriving DecidableEq

/-- The buffer after a call. -/
def after (service : LogService) (b : EventBuffer) : Call → EventBuffer
  | .emit e => service.emit e b
  | .log e => b.push e
  | .clear => b.clear

def afterAll (service : LogService) (b : EventBuffer) (calls : List Call) : EventBuffer :=
  calls.foldl (after service) b

theorem afterAll_concat
    (service : LogService)
    (b : EventBuffer)
    (calls : List Call) (call : Call) :
    b.afterAll service (calls ++ [call]) =
      (b.afterAll service calls).after service call := by
  simp [afterAll]

/-! ## Arrivals -/

/-- The event of a call that reaches the buffer. -/
def Call.arrival? (threshold : Level) : Call → Option Event
  | .emit e => if e.level.rank ≤ threshold.rank then some e else none
  | .log e => some e
  | .clear => none

/-- The events that have reached the buffer since it was cleared last. -/
def arrivals (threshold : Level) (calls : List Call) : List Event :=
  (calls.rtakeWhile fun call => call != .clear).filterMap (Call.arrival? threshold)

theorem arrivals_concat
    (threshold : Level)
    (calls : List Call)
    {call : Call}
    (h : call ≠ .clear) :
    arrivals threshold (calls ++ [call])
      =
    arrivals threshold calls ++ (call.arrival? threshold).toList := by
  rw [arrivals, List.rtakeWhile_concat_pos _ _ _ (by simpa using h), List.filterMap_append]
  cases harrival : call.arrival? threshold <;> simp [arrivals, harrival]

theorem arrivals_concat_clear
    (threshold : Level)
    (calls : List Call) :
    arrivals threshold (calls ++ [.clear]) = [] := by
  simp [arrivals]

/-! ## The events that are kept -/

/-- A buffer that is not overfull has the new event last, and of the others those that find
room. -/
theorem events_push
    {b : EventBuffer}
    (hplace : 0 < b.capacity)
    (hroom : b.events.size ≤ b.capacity)
    (e : Event) :
    (b.push e).events.toList = (b.events.toList ++ [e]).rtake b.capacity := by
  obtain ⟨n, hn⟩ : ∃ n, b.capacity = n + 1 := ⟨b.capacity - 1, by omega⟩
  have hlength : b.events.toList.length = b.events.size := Array.length_toList
  rw [hn, List.rtake_concat_succ, List.rtake, hlength, push]
  by_cases hfull : b.events.size = b.capacity
  · have hone : b.events.size - n = 1 := by omega
    have hall : (b.events.toList.drop 1).take (b.events.size - 1) =
        b.events.toList.drop 1 :=
      List.take_of_length_le (by simp)
    rw [if_pos hfull, hone, Array.toList_push, Array.toList_extract,
      List.extract_eq_take_drop, hall]
  · have hnone : b.events.size - n = 0 := by omega
    rw [if_neg hfull, hnone, Array.toList_push, List.drop_zero]

theorem capacity_after
    (service : LogService)
    (b : EventBuffer)
    (call : Call) :
    (b.after service call).capacity = b.capacity := by
  cases call with
  | emit e =>
      rw [after, LogService.emit]
      split <;> rfl
  | log e =>
      rfl
  | clear =>
      rfl

theorem capacity_afterAll
    (service : LogService)
    (b : EventBuffer)
    (calls : List Call) :
    (b.afterAll service calls).capacity = b.capacity := by
  induction calls using List.reverseRecOn with
  | nil =>
      rfl
  | append_singleton calls call ih =>
      rw [afterAll_concat, capacity_after, ih]

/-- A call that does not clear the buffer pushes its arrival, if it has one. -/
theorem after_eq_of_ne_clear
    (service : LogService)
    (b : EventBuffer)
    {call : Call}
    (h : call ≠ .clear) :
    b.after service call = b.pushAll (call.arrival? service.threshold).toList := by
  cases call with
  | emit e =>
      by_cases hpasses : e.level.rank ≤ service.threshold.rank <;>
        simp [after, LogService.emit, LogService.enabled, Level.passes,
          Call.arrival?, pushAll, hpasses]
  | log e =>
      rfl
  | clear =>
      exact absurd rfl h

/-- The events of a buffer are the last ones of its arrivals. -/
theorem events_afterAll
    (capacity : Nat)
    (service : LogService)
    (calls : List Call) :
    ((withCapacity capacity).afterAll service calls).events.toList
      =
    (arrivals service.threshold calls).rtake (max capacity 1) := by
  induction calls using List.reverseRecOn with
  | nil =>
      simp [afterAll, withCapacity, arrivals]
  | append_singleton calls call ih =>
      have hcapacity :
          ((withCapacity capacity).afterAll service calls).capacity = max capacity 1 :=
        capacity_afterAll service (withCapacity capacity) calls
      rw [afterAll_concat]
      generalize (withCapacity capacity).afterAll service calls = b at ih hcapacity ⊢
      have hroom : b.events.size ≤ b.capacity := by
        rw [← Array.length_toList, ih, length_rtake, hcapacity]
        exact Nat.min_le_left _ _
      by_cases hclear : call = .clear
      · rw [hclear, arrivals_concat_clear]
        simp [after, clear]
      · rw [after_eq_of_ne_clear service b hclear, arrivals_concat _ _ hclear]
        cases harrival : call.arrival? service.threshold with
        | none =>
            simpa [pushAll] using ih
        | some e =>
            have hpush := events_push (by omega) hroom e
            rw [ih, hcapacity, rtake_rtake_concat] at hpush
            exact hpush

/-! ## What a buffer answers -/

theorem toList_errors
    (b : EventBuffer) :
    b.errors.toList = b.events.toList.filter Event.isError := by
  rw [errors, Array.toList_filter]

theorem containsCode_iff
    (b : EventBuffer)
    (code : Code) :
    b.containsCode code = true ↔ ∃ e ∈ b.events.toList, e.code = code := by
  rw [containsCode, ← Array.any_toList, List.any_eq_true]
  simp only [decide_eq_true_eq]

theorem summary_eq_foldl
    (b : EventBuffer) :
    b.summary = b.events.toList.foldl (fun s e => s.count e.level) {} := by
  rw [summary, Array.foldl_toList]

/-- The summary has the number of events of every level. -/
theorem of_summary
    (b : EventBuffer)
    (level : Level) :
    b.summary.of level = b.countLevel level := by
  rw [summary_eq_foldl, EventSummary.of_foldl, countLevel, ← Array.countP_toList]
  cases level <;> exact Nat.zero_add _

theorem total_summary
    (b : EventBuffer) :
    b.summary.total = b.size := by
  rw [summary_eq_foldl, EventSummary.total_foldl, Array.length_toList]
  exact Nat.zero_add _

/--
A buffer follows its arrivals.  After any calls on a new buffer of some capacity behind a
service, its events are the last ones of those that have arrived since it was cleared, as
many as the capacity allows, and one at least.  An event arrives if it is logged past the
service, or if it is emitted and its level is at most the threshold.  The errors, the codes
and the numbers of the summary are those of the events that are kept, and the total is
their number.
-/
theorem buffer_follows_arrivals
    (capacity : Nat)
    (service : LogService)
    (calls : List Call) :
    let b := (withCapacity capacity).afterAll service calls
    let kept := (arrivals service.threshold calls).rtake (max capacity 1)
    b.events.toList = kept ∧
    b.size = kept.length ∧
    b.size ≤ max capacity 1 ∧
    b.errors.toList = kept.filter (fun e => e.level = .error) ∧
    (∀ code, b.containsCode code = true ↔ ∃ e ∈ kept, e.code = code) ∧
    b.summary.errors = kept.countP (fun e => e.level = .error) ∧
    b.summary.warnings = kept.countP (fun e => e.level = .warning) ∧
    b.summary.infos = kept.countP (fun e => e.level = .info) ∧
    b.summary.debugs = kept.countP (fun e => e.level = .debug) ∧
    b.summary.total = b.size := by
  intro b kept
  have hevents : b.events.toList = kept := events_afterAll capacity service calls
  have hsize : b.size = kept.length := by rw [size, ← Array.length_toList, hevents]
  have hcount : ∀ level, b.summary.of level = kept.countP (fun e => e.level = level) := by
    intro level
    rw [of_summary, countLevel, ← Array.countP_toList, hevents]
  refine ⟨hevents, hsize, ?_, ?_, ?_, hcount .error, hcount .warning, hcount .info,
    hcount .debug, b.total_summary⟩
  · rw [hsize, length_rtake]
    exact Nat.min_le_left _ _
  · rw [toList_errors, hevents]
    rfl
  · intro code
    rw [containsCode_iff, hevents]

end EventBuffer
end TableLexer
