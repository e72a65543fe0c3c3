import TableLexer.Diagnostic.Buffer
import TableLexer.Diagnostic.Log
import TableLexer.Settings

/-!
# Setting up the log

A process has at most one log service and one set of log settings.  Each of them is set
once: a later attempt fails and leaves what is there.
-/

namespace TableLexer

/-- What a process has set up for logging. -/
structure LogSetup where
  service : Option LogService := none
  settings : Option LogSettings := none
deriving DecidableEq, Repr

/-- A part of the setup that is there already. -/
inductive LogSetupError where
  | serviceSet
  | settingsSet
deriving DecidableEq, Repr

/-- The error for the reader. -/
def LogSetupError.message : LogSetupError → String
  | serviceSet => "Global logger already initialized"
  | settingsSet => "Runtime logging preferences already initialized"

/-- The service that lets through what the settings ask for. -/
def LogService.ofSettings (s : LogSettings) : LogService :=
  ⟨s.threshold⟩

namespace LogSetup

/-- The setup with a service, if it has none. -/
def setService (setup : LogSetup) (service : LogService) : Except LogSetupError LogSetup :=
  match setup.service with
  | some _ => .error .serviceSet
  | none => .ok { setup with service := some service }

/-- The setup with settings, if it has none. -/
def setSettings (setup : LogSetup) (settings : LogSettings) :
    Except LogSetupError LogSetup :=
  match setup.settings with
  | some _ => .error .settingsSet
  | none => .ok { setup with settings := some settings }

end LogSetup

/-- Neither the buffer nor a message is bounded by nothing at all. -/
def logLimitsHold : Bool :=
  0 < EventBuffer.defaultCapacity && 0 < maxMessageBytes

/-- The log settings for the reader. -/
def LogSettings.summary (s : LogSettings) : String :=
  "Logging Configuration:\n  Min level: " ++ s.threshold.name ++
    "\n  Structured: " ++ Event.yesNo s.structured ++
    "\n  Console: " ++ Event.yesNo s.console ++
    "\n  Buffer size: " ++ toString EventBuffer.defaultCapacity ++ "\n"

end TableLexer
