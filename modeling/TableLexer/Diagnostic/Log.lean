import TableLexer.Diagnostic.Event
import TableLexer.Text.Bytes

/-!
# Logging

A computation that logs runs in a scope, which gives the time and the file at hand, and has
an answer and the events it emits, in order.  `within` puts a file around a computation;
the scope of what follows is not touched, whether the computation ends early or not.
-/

namespace TableLexer

/-- The largest number of bytes that a message keeps. -/
def maxMessageBytes : Nat := 4096

/--
The message cut to a number of bytes.  The place of the cut goes back until no character is
cut in two; there is no answer if there is no such place.
-/
def truncateMessage? (limit : Nat) (message : String) : Option String :=
  if message.utf8ByteSize ≤ limit then some message
  else (Text.boundaryAtMost? message limit).bind (Text.cutAt? message)

theorem isSome_truncateMessage? (limit : Nat) (message : String) :
    (truncateMessage? limit message).isSome := by
  unfold truncateMessage?
  split
  · rfl
  · obtain ⟨last, hlast, -, hboundary, -⟩ := Text.exists_boundaryAtMost? message limit
    rw [hlast, Option.bind_some, Text.cutAt?, dif_pos hboundary]
    rfl

/-- The message cut to a number of bytes, for which there is always a place. -/
def truncateMessage (limit : Nat) (message : String) : String :=
  (truncateMessage? limit message).get (isSome_truncateMessage? limit message)

/-- What a computation that logs is told. -/
structure Scope where
  now : Timestamp
  /-- The path of the file at hand, which every event gets. -/
  file : Option String := none
deriving Repr

namespace Scope

/-- The event as it is delivered: with the given values, the file at hand, and a bounded
message. -/
def deliver (scope : Scope) (event : Event) (pairs : List (String × String)) : Event :=
  let context := event.context.insertAll pairs
  let context := match scope.file with
    | some path => context.insert "file" path
    | none => context
  { event with
    context := context, message := truncateMessage maxMessageBytes event.message }

end Scope

/-- A computation that logs. -/
structure Logged (α : Type) where
  run : Scope → α × List Event

namespace Logged

/-- The answer of the computation. -/
def value {α : Type} (x : Logged α) (scope : Scope) : α :=
  (x.run scope).1

/-- The events that the computation emits. -/
def events {α : Type} (x : Logged α) (scope : Scope) : List Event :=
  (x.run scope).2

/-- An answer without events. -/
def pure {α : Type} (a : α) : Logged α :=
  ⟨fun _ => (a, [])⟩

/-- One computation after the other. -/
def bind {α β : Type} (x : Logged α) (f : α → Logged β) : Logged β :=
  ⟨fun scope =>
    let (a, before) := x.run scope
    let (b, after) := (f a).run scope
    (b, before ++ after)⟩

instance : Monad Logged where
  pure := pure
  bind := bind

/-- The time at which the computation runs. -/
def now : Logged Timestamp :=
  ⟨fun scope => (scope.now, [])⟩

/-- Emits an event with further values. -/
def emit (event : Event) (pairs : List (String × String)) : Logged Unit :=
  ⟨fun scope => ((), [scope.deliver event pairs])⟩

/-- Emits an event that arises now. -/
def emitNow (level : Level) (code : Code) (message : String)
    (pairs : List (String × String)) : Logged Unit :=
  ⟨fun scope => ((), [scope.deliver (.coded scope.now level code message) pairs])⟩

/-- Reports an error. -/
def error (code : Code) (message : String) (pairs : List (String × String)) :
    Logged Unit :=
  emitNow .error code message pairs

/-- Reports a success. -/
def success (code : Code) (message : String) (pairs : List (String × String)) :
    Logged Unit :=
  emitNow .info code message pairs

/-- Logs a message with the code that its level gives. -/
def say (level : Level) (message : String) (pairs : List (String × String)) :
    Logged Unit :=
  emitNow level level.defaultCode message pairs

/-- The computation with the file at hand. -/
def within {α : Type} (path : String) (x : Logged α) : Logged α :=
  ⟨fun scope => x.run { scope with file := some path }⟩

/-- The answers of a computation on each element, in order. -/
def mapEach {α β : Type} (f : α → Logged β) : List α → Logged (List β)
  | [] => pure []
  | a :: rest =>
    bind (f a) fun b =>
    bind (mapEach f rest) fun bs =>
    pure (b :: bs)

section Value

variable {α β : Type} (scope : Scope)

@[simp] theorem value_pure (a : α) : (Pure.pure a : Logged α).value scope = a := rfl

@[simp] theorem value_bind (x : Logged α) (f : α → Logged β) :
    (x >>= f).value scope = (f (x.value scope)).value scope := rfl

@[simp] theorem value_now : now.value scope = scope.now := rfl

@[simp] theorem value_within (path : String) (x : Logged α) :
    (within path x).value scope = x.value { scope with file := some path } := rfl

@[simp] theorem value_mapEach (f : α → Logged β) (xs : List α) :
    (mapEach f xs).value scope = xs.map fun a => (f a).value scope := by
  induction xs with
  | nil => rfl
  | cons a rest ih => rw [List.map_cons, ← ih]; rfl

end Value

end Logged
end TableLexer
