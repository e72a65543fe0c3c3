/-!
# JSON values

A value as JSON text can hold it.  A number is kept as it is written, and an object keeps
its fields in order, repeated ones included.  A string has no text when one of its escapes
names half of a surrogate pair: such a string is well formed as long as nobody asks for its
text.
-/

namespace TableLexer

/-- A JSON value. -/
inductive Json where
  | null
  | bool (value : Bool)
  | number (literal : String)
  | string (text : Option String)
  | array (elements : List Json)
  | object (fields : List (Option String × Json))
deriving Repr

namespace Json

/-- The string value of a text. -/
def ofText (s : String) : Json :=
  .string (some s)

/-- The number value of a natural number. -/
def ofNat (n : Nat) : Json :=
  .number (toString n)

/-- The value of an optional one, `null` where there is none. -/
def ofOption {α : Type} (f : α → Json) : Option α → Json
  | none => .null
  | some a => f a

/-- The object with the given fields, in their order. -/
def ofFields (fields : List (String × Json)) : Json :=
  .object (fields.map fun (key, value) => (some key, value))

end Json
end TableLexer
