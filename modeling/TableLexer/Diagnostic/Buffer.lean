import TableLexer.Diagnostic.Event

/-!
# Event buffers

A buffer keeps the latest events up to its capacity, which is at least one.  A service
stands in front of a sink and lets through the events that pass its threshold.
-/

namespace TableLexer

/-- How many events there are of each level. -/
structure EventSummary where
  errors : Nat := 0
  warnings : Nat := 0
  infos : Nat := 0
  debugs : Nat := 0
deriving DecidableEq, Repr

namespace EventSummary

/-- The summary with one more event of the level. -/
def count (s : EventSummary) : Level → EventSummary
  | .error => { s with errors := s.errors + 1 }
  | .warning => { s with warnings := s.warnings + 1 }
  | .info => { s with infos := s.infos + 1 }
  | .debug => { s with debugs := s.debugs + 1 }

/-- The number of events of all levels. -/
def total (s : EventSummary) : Nat :=
  s.errors + s.warnings + s.infos + s.debugs

end EventSummary

/-- The latest events, the oldest one first. -/
structure EventBuffer where
  events : Array Event
  capacity : Nat
deriving Repr

namespace EventBuffer

/-- The capacity of a buffer for which none is given. -/
def defaultCapacity : Nat := 10000

/-- An empty buffer. -/
def withCapacity (capacity : Nat) : EventBuffer :=
  ⟨#[], max capacity 1⟩

/-- The buffer with one more event; a full one drops its oldest event first. -/
def push (b : EventBuffer) (e : Event) : EventBuffer :=
  let kept := if b.events.size = b.capacity then b.events.extract 1 b.events.size
    else b.events
  { b with events := kept.push e }

/-- The buffer after a sequence of events. -/
def pushAll (b : EventBuffer) (es : List Event) : EventBuffer :=
  es.foldl push b

/-- The number of events kept. -/
def size (b : EventBuffer) : Nat :=
  b.events.size

/-- The buffer without its events. -/
def clear (b : EventBuffer) : EventBuffer :=
  { b with events := #[] }

/-- The errors among the events kept. -/
def errors (b : EventBuffer) : Array Event :=
  b.events.filter Event.isError

/-- Some event kept has the code. -/
def containsCode (b : EventBuffer) (code : Code) : Bool :=
  b.events.any fun e => e.code = code

/-- The number of events kept that have the level. -/
def countLevel (b : EventBuffer) (level : Level) : Nat :=
  b.events.countP fun e => e.level = level

/-- The events kept, counted one after the other. -/
def summary (b : EventBuffer) : EventSummary :=
  b.events.foldl (fun s e => s.count e.level) {}

end EventBuffer

/-- A filter in front of a sink of events. -/
structure LogService where
  threshold : Level
deriving DecidableEq, Repr

namespace LogService

/-- The service lets events of the level through. -/
def enabled (s : LogService) (level : Level) : Bool :=
  level.passes s.threshold

/-- The events that the service lets through. -/
def delivered (s : LogService) (es : List Event) : List Event :=
  es.filter fun e => s.enabled e.level

/-- Hands an event to a buffer if it passes. -/
def emit (s : LogService) (e : Event) (b : EventBuffer) : EventBuffer :=
  if s.enabled e.level then b.push e else b

end LogService
end TableLexer
