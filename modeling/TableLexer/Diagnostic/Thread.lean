import TableLexer.Diagnostic.Log

/-!
# The file at hand of a thread

A thread keeps the file at hand in one cell.  A block that is run with a file puts its path
into the cell, and a guard holds what was there; whether the block comes to its end or
stops early with an error, the guard puts it back.  An event that is emitted gets the file
that is in the cell then.
-/

namespace TableLexer

/-- What a thread keeps for its log, and the events that it has delivered, the oldest one
first. -/
structure LogThread where
  scope : Scope
  delivered : List Event := []
deriving Repr

namespace LogThread

/-- Puts a file into the cell; the guard holds the one that was there. -/
def enter (t : LogThread) (path : String) : Option String × LogThread :=
  (t.scope.file, { t with scope := { t.scope with file := some path } })

/-- Puts back what the guard holds. -/
def leave (t : LogThread) (guard : Option String) : LogThread :=
  { t with scope := { t.scope with file := guard } }

/-- Delivers an event with further values. -/
def emit (t : LogThread) (event : Event) (pairs : List (String × String)) : LogThread :=
  { t with delivered := t.delivered ++ [t.scope.deliver event pairs] }

end LogThread

/-- How a block ends: at its end, or early with an error. -/
inductive Ending where
  | complete
  | early
deriving DecidableEq, Repr

/-- A block that logs. -/
inductive LogBlock where
  /-- Does nothing. -/
  | skip
  /-- Stops with an error. -/
  | stop
  /-- Emits an event with further values. -/
  | emit (event : Event) (pairs : List (String × String))
  /-- One block after the other; an error of the first one is passed on. -/
  | seq (first second : LogBlock)
  /-- A block whose error is taken up by another one. -/
  | rescue (body handler : LogBlock)
  /-- A block with a file at hand. -/
  | within (path : String) (body : LogBlock)

namespace LogBlock

/-- Runs a block on a thread. -/
def exec : LogBlock → LogThread → Ending × LogThread
  | skip, t => (.complete, t)
  | stop, t => (.early, t)
  | emit event pairs, t => (.complete, t.emit event pairs)
  | seq first second, t =>
    match first.exec t with
    | (.complete, t) => second.exec t
    | (.early, t) => (.early, t)
  | rescue body handler, t =>
    match body.exec t with
    | (.complete, t) => (.complete, t)
    | (.early, t) => handler.exec t
  | within path body, t =>
    let (guard, t) := t.enter path
    let (ending, t) := body.exec t
    (ending, t.leave guard)

end LogBlock
end TableLexer
