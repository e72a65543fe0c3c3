import TableLexer.Diagnostic.Level
import TableLexer.Json.Writer
import TableLexer.Time.Timestamp

/-!
# Events

One diagnostic: when it arose, how urgent it is, its code, a message, and values under
names.  An event is shown as one line, as that line with what is known about the code, or
as a JSON record.
-/

namespace TableLexer

/-- Values under names, in the order of the names, each name once. -/
structure Context where
  entries : List (String × String)
deriving DecidableEq, Repr

namespace Context

/-- No values. -/
def empty : Context := ⟨[]⟩

/-- Puts a value into an ordered list, in place of the value that has the name. -/
def insertEntry (key value : String) : List (String × String) → List (String × String)
  | [] => [(key, value)]
  | (k, v) :: rest =>
    if key = k then (key, value) :: rest
    else if key < k then (key, value) :: (k, v) :: rest
    else (k, v) :: insertEntry key value rest

/-- The values with one more, which takes the place of the value that has the name. -/
def insert (c : Context) (key value : String) : Context :=
  ⟨insertEntry key value c.entries⟩

/-- The values with others, the last one of a name winning. -/
def insertAll (c : Context) (pairs : List (String × String)) : Context :=
  pairs.foldl (fun c p => c.insert p.1 p.2) c

/-- The value of a name. -/
def get? (c : Context) (key : String) : Option String :=
  c.entries.lookup key

/-- The values as a JSON object. -/
def toJson (c : Context) : Json :=
  .ofFields (c.entries.map fun (key, value) => (key, .ofText value))

end Context

/-- A diagnostic. -/
structure Event where
  timestamp : Timestamp
  level : Level
  code : Code
  message : String
  context : Context
deriving DecidableEq, Repr

namespace Event

/-- An event with a code and no values. -/
def coded (timestamp : Timestamp) (level : Level) (code : Code)
    (message : String) : Event :=
  ⟨timestamp, level, code, message, .empty⟩

/-- An event with the code that its level gives. -/
def plain (timestamp : Timestamp) (level : Level) (message : String) : Event :=
  coded timestamp level level.defaultCode message

/-- The event reports an error. -/
def isError (e : Event) : Bool :=
  e.level = .error

/-- The event as one line. -/
def display (e : Event) : String :=
  let head := "[" ++ e.level.mark ++ "] " ++ e.code.text ++ " - " ++ e.message
  match e.context.entries with
  | [] => head
  | entries =>
    head ++ " (" ++ ", ".intercalate (entries.map fun (k, v) => k ++ "=" ++ v) ++ ")"

/-- A truth value in words. -/
def yesNo (b : Bool) : String :=
  if b then "true" else "false"

/-- The event with what is known about its code. -/
def detailed (e : Event) : String :=
  let head := e.display ++ "\n  Category: " ++ e.code.category ++
    "\n  Severity: " ++ e.code.severity.name
  match e.code.info? with
  | none => head
  | some info =>
    head ++ "\n  Recoverable: " ++ yesNo e.code.isRecoverable ++
      "\n  Description: " ++ info.description ++ "\n  Recommended action: " ++ info.action

/-- What is known about the code of an error, in JSON. -/
def diagnosis (code : Code) : Json :=
  .ofFields
    [("severity", .ofText code.severity.name), ("recoverable", .bool code.isRecoverable),
     ("description", .ofText code.description), ("action", .ofText code.action)]

/-- The event in JSON; no values and no diagnosis leave their fields out. -/
def toJson (e : Event) : Json :=
  .ofFields
    ([("timestamp", .ofText e.timestamp.formatMillis), ("level", .ofText e.level.mark),
      ("code", .ofText e.code.text), ("category", .ofText e.code.category),
      ("message", .ofText e.message)] ++
     (if e.context.entries.isEmpty then [] else [("context", e.context.toJson)]) ++
     (if e.isError then [("diagnosis", diagnosis e.code)] else []))

end Event
end TableLexer
