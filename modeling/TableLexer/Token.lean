import TableLexer.Kind
import TableLexer.Text.Bytes
import TableLexer.Json.Writer
import TableLexer.Json.Reader

/-!
# Tokens

A token is a classified piece of a source with the line and the byte offset at which it
starts.  Its JSON form is a record of four fields.
-/

namespace TableLexer

/-- The largest line number; counting lines stops there. -/
def maxLine : Nat := 4294967295

/-- The largest byte offset that a written token may have. -/
def maxPosition : Nat := 18446744073709551615

/-- A classified piece of a source. -/
structure Token where
  kind : Kind
  value : String
  /-- The line on which the token starts, counted from 1. -/
  line : Nat
  /-- The byte offset at which the token starts. -/
  position : Nat
deriving DecidableEq, Repr

namespace Token

/-- The byte offset just past the token. -/
def stop (t : Token) : Nat :=
  t.position + t.value.utf8ByteSize

/-- The number of line feeds inside the token. -/
def newlines (t : Token) : Nat :=
  Text.newlines t.value.toList

/-- The token as one line of the text report. -/
def display (t : Token) : String :=
  "Type: " ++ t.kind.name ++ ", Value: \"" ++ t.value ++ "\", Line: " ++ toString t.line ++
    ", Position: " ++ toString t.position

/-- The token in JSON. -/
def toJson (t : Token) : Json :=
  .ofFields
    [("kind", t.kind.toJson), ("value", .ofText t.value), ("line", .ofNat t.line),
     ("position", .ofNat t.position)]

/-- The token that a JSON value holds. -/
def ofJson? (v : Json) : Option Token := do
  match ← v.toRecord? ["kind", "value", "line", "position"] with
  | [some kind, some value, some line, some position] =>
    let kind ← Kind.ofJson? kind
    let value ← value.toText?
    let line ← line.toNatUpTo? maxLine
    let position ← position.toNatUpTo? maxPosition
    return ⟨kind, value, line, position⟩
  | _ => none

/-- The token that a JSON text holds. -/
def parse? (s : String) : Option Token :=
  (Json.read? s).bind ofJson?

end Token
end TableLexer
