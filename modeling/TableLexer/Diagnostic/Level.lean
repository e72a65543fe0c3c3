import TableLexer.Diagnostic.Code
import TableLexer.Text.Blank
import TableLexer.Text.Case

/-!
# Levels

How urgent an event is.  The most severe level comes first in the order, and a threshold
lets through every level that is at most itself.
-/

namespace TableLexer

/-- The level of an event. -/
inductive Level where
  | error
  | warning
  | info
  | debug
deriving DecidableEq, Repr

namespace Level

/-- Every level, the most severe one first. -/
def all : List Level :=
  [error, warning, info, debug]

/-- The place of the level in the order, 0 for the most severe one. -/
def rank : Level → Nat
  | error => 0
  | warning => 1
  | info => 2
  | debug => 3

/-- Events of the level pass the threshold. -/
def passes (level threshold : Level) : Bool :=
  level.rank ≤ threshold.rank

/-- The mark of the level in a log line. -/
def mark : Level → String
  | error => "ERROR"
  | warning => "WARN"
  | info => "INFO"
  | debug => "DEBUG"

/-- The name of the level in settings. -/
def name : Level → String
  | error => "error"
  | warning => "warning"
  | info => "info"
  | debug => "debug"

/-- The level with the given mark. -/
def ofMark? (s : String) : Option Level :=
  all.find? fun l => l.mark == s

/-- The level with exactly this name. -/
def ofName? (s : String) : Option Level :=
  all.find? fun l => l.name == s

/-- The level that a word or a number means; the case of letters does not matter. -/
def parse? (s : String) : Option Level :=
  match Text.lower s with
  | "error" | "0" => some error
  | "warning" | "warn" | "1" => some warning
  | "info" | "2" => some info
  | "debug" | "3" => some debug
  | _ => none

/-- The code of an event that is logged without one. -/
def defaultCode : Level → Code
  | error => .internalError
  | warning => ⟨"W000"⟩
  | info => ⟨"I000"⟩
  | debug => ⟨"D000"⟩

end Level
end TableLexer
