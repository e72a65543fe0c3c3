import Mathlib.Data.List.Forall2
import TableLexer.Diagnostic.Thread
import TableLexer.Proofs.Diagnostic.Delivery

/-!
# Files at hand nest

What a block emits is told by its text: each event with its values and with the files of
the blocks around it (`LogBlock.emissions`).  A thread has one cell for all these files, so
it has to be shown that the cell always holds the innermost one.

The induction is over the block.  Its invariant is that a block leaves the cell as it found
it, whether it comes to its end or stops early (`LogBlock.exec_eq`): then the guard of a
file puts back the file around it (`LogBlock.exec_within`), and what follows, a second
block or one that takes up the error, starts from there.  A computation that logs, which is
told the file at hand and has no cell, says the same (`LogBlock.logged_eq`).
-/

namespace TableLexer

/-- The scope inside of blocks with these files, the innermost first. -/
def Scope.inside (scope : Scope) (around : List String) : Scope :=
  { scope with file := around.head?.or scope.file }

/-- An event that a block emits, with further values, and the files of the blocks around
it, the innermost first. -/
structure Emission where
  event : Event
  pairs : List (String × String)
  around : List String

namespace Emission

def deliver (scope : Scope) (m : Emission) : Event :=
  (scope.inside m.around).deliver m.event m.pairs

/-- The event as it has to be delivered if `start` is the file at hand around all
blocks. -/
structure DeliveredAs
    (start : Option String)
    (m : Emission)
    (e : Event) :
    Prop where
  timestamp : e.timestamp = m.event.timestamp
  level : e.level = m.event.level
  code : e.code = m.event.code
  message : LongestBeginning 4096 m.event.message e.message
  values : ∀ key,
    e.context.get? key
      =
    ((if key = "file" then m.around.head?.or start else none).or
      (Context.lastGiven? m.pairs key)).or (m.event.context.get? key)
  ordered : m.event.context.Ordered → e.context.Ordered

theorem deliveredAs_deliver
    (scope : Scope)
    (m : Emission) :
    m.DeliveredAs scope.file (m.deliver scope) where
  timestamp := rfl
  level := rfl
  code := rfl
  message := longestBeginning_truncateMessage maxMessageBytes m.event.message
  values := (scope.inside m.around).get?_deliver m.event m.pairs
  ordered := (scope.inside m.around).ordered_deliver m.event m.pairs

end Emission

namespace Logged

theorem run_bind
    {α β : Type}
    (scope : Scope)
    (x : Logged α)
    (f : α → Logged β) :
    (x >>= f).run scope
      =
    ((f (x.run scope).1).value scope,
      (x.run scope).2 ++ (f (x.run scope).1).events scope) := rfl

end Logged

namespace LogBlock

/-- How a block ends. -/
def ending : LogBlock → Ending
  | skip | emit _ _ => .complete
  | stop => .early
  | seq first second => if first.ending = .complete then second.ending else .early
  | rescue body handler => if body.ending = .complete then .complete else handler.ending
  | within _ body => body.ending

/-- What a block emits inside of blocks with these files, in order. -/
def emissions (around : List String) : LogBlock → List Emission
  | skip | stop => []
  | emit event pairs => [⟨event, pairs, around⟩]
  | seq first second =>
    first.emissions around ++
      if first.ending = .complete then second.emissions around else []
  | rescue body handler =>
    body.emissions around ++
      if body.ending = .complete then [] else handler.emissions around
  | within path body => body.emissions (path :: around)

/-- The block as a computation that logs. -/
def logged : LogBlock → Logged Ending
  | skip => pure .complete
  | stop => pure .early
  | emit event pairs => do
    Logged.emit event pairs
    pure .complete
  | seq first second => do
    match ← first.logged with
    | .complete => second.logged
    | .early => pure .early
  | rescue body handler => do
    match ← body.logged with
    | .complete => pure .complete
    | .early => handler.logged
  | within path body => Logged.within path body.logged

/-- However a block with a file ends, the file that was at hand before is put back. -/
theorem exec_within
    (path : String)
    (body : LogBlock)
    (t : LogThread) :
    (within path body).exec t
      =
    ((body.exec (t.enter path).2).1, (body.exec (t.enter path).2).2.leave t.scope.file) :=
      rfl

/-- A block delivers what it emits, each event with the innermost file around it, and
leaves the file at hand as it was. -/
theorem exec_eq
    (block : LogBlock)
    (scope : Scope)
    (around : List String)
    (delivered : List Event) :
    block.exec ⟨scope.inside around, delivered⟩
      =
    (block.ending,
      ⟨scope.inside around,
        delivered ++ (block.emissions around).map (Emission.deliver scope)⟩) := by
  induction block generalizing around delivered with
  | skip =>
      simp [exec, ending, emissions]
  | stop =>
      simp [exec, ending, emissions]
  | emit event pairs =>
      rfl
  | seq first second ihfirst ihsecond =>
      rw [exec, ihfirst]
      cases hfirst : first.ending with
      | complete =>
          simp [ihsecond, ending, emissions, hfirst]
      | early =>
          simp [ending, emissions, hfirst]
  | rescue body handler ihbody ihhandler =>
      rw [exec, ihbody]
      cases hbody : body.ending with
      | complete =>
          simp [ending, emissions, hbody]
      | early =>
          simp [ihhandler, ending, emissions, hbody]
  | within path body ih =>
      have hbody :
          body.exec (LogThread.enter ⟨scope.inside around, delivered⟩ path).2 = _ :=
        ih (path :: around) delivered
      rw [exec_within, hbody]
      rfl

/-- The computation has the ending of the block and emits what the block emits. -/
theorem logged_eq
    (block : LogBlock)
    (scope : Scope)
    (around : List String) :
    block.logged.run (scope.inside around)
      =
    (block.ending, (block.emissions around).map (Emission.deliver scope)) := by
  induction block generalizing around with
  | skip =>
      rfl
  | stop =>
      rfl
  | emit event pairs =>
      rfl
  | seq first second ihfirst ihsecond =>
      rw [logged, Logged.run_bind, ihfirst]
      cases hfirst : first.ending with
      | complete =>
          simp [Logged.value, Logged.events, ihsecond, ending, emissions, hfirst]
      | early =>
          simp [ending, emissions, hfirst]
  | rescue body handler ihbody ihhandler =>
      rw [logged, Logged.run_bind, ihbody]
      cases hbody : body.ending with
      | complete =>
          simp [ending, emissions, hbody]
      | early =>
          simp [Logged.value, Logged.events, ihhandler, ending, emissions, hbody]
  | within path body ih =>
      exact ih (path :: around)

/-- Files at hand nest.  However a block ends, the thread has the file at hand that it had
before, and has delivered in order what the block emits, each event with its own values,
those it is emitted with and the innermost file around it.  The computation that the block
stands for does the same. -/
theorem files_at_hand_nest
    (block : LogBlock)
    (thread : LogThread) :
    ∃ events : List Event,
      block.exec thread
        =
      (block.ending, { thread with delivered := thread.delivered ++ events }) ∧
      block.logged.run thread.scope = (block.ending, events) ∧
      List.Forall₂ (Emission.DeliveredAs thread.scope.file) (block.emissions [])
        events := by
  refine ⟨(block.emissions []).map (Emission.deliver thread.scope), ?_, ?_, ?_⟩
  · exact block.exec_eq thread.scope [] thread.delivered
  · exact block.logged_eq thread.scope []
  · refine List.forall₂_map_right_iff.2 (List.forall₂_same.2 ?_)
    intro m _
    exact m.deliveredAs_deliver thread.scope

/-- What follows an inner block that stopped is about the outer file again. -/
example (event : Event) :
    (within "outer" (seq (rescue (within "inner" stop) skip) (emit event []))).emissions []
      =
    [⟨event, [], ["outer"]⟩] := rfl

end LogBlock

end TableLexer
