import TableLexer.Text.Blank
import TableLexer.Text.Case
import TableLexer.Diagnostic.Code
import TableLexer.Json.Shape

/-!
# Languages

The six languages that have a rule table, how each is named, and which extension of a file
name implies which of them.
-/

namespace TableLexer

/-- A language with a rule table. -/
inductive Language where
  | c
  | python
  | java
  | javaScript
  | html
  | css
deriving DecidableEq, Repr

/-- The text that was given names no language. -/
structure UnknownLanguage where
  given : String
deriving DecidableEq, Repr

namespace UnknownLanguage

/-- The diagnostic code of the error. -/
def code (_ : UnknownLanguage) : Code :=
  .unknownLanguage

/-- The error for the reader. -/
def message (e : UnknownLanguage) : String :=
  "Unknown language: '" ++ e.given ++ "'"

end UnknownLanguage

namespace Language

/-- Every language, in the order of the tables. -/
def all : List Language :=
  [c, python, java, javaScript, html, css]

/-- The identifier of the language. -/
def name : Language → String
  | c => "c"
  | python => "python"
  | java => "java"
  | javaScript => "javascript"
  | html => "html"
  | css => "css"

/-- The identifier in capitals, as the head of a report prints it. -/
def displayName (l : Language) : String :=
  l.name.map Char.toUpper

/-- The language with exactly this identifier. -/
def ofName? (s : String) : Option Language :=
  all.find? fun l => l.name == s

/-- The language that an identifier means: blanks around it and the case of letters do not
matter. -/
def parse (identifier : String) : Except UnknownLanguage Language :=
  let wanted := String.ofList (Text.trimBlank identifier.toList)
  match all.find? fun l => Text.sameIgnoringAsciiCase l.name wanted with
  | some l => .ok l
  | none => .error ⟨identifier⟩

/-- The extensions that imply the language, in small letters. -/
def extensions : Language → List String
  | c => ["c", "h", "cpp"]
  | python => ["py"]
  | java => ["java"]
  | javaScript => ["js", "mjs", "cjs"]
  | html => ["html", "htm"]
  | css => ["css"]

/-- The language that an extension implies; the case of ASCII letters does not matter. -/
def ofExtension? (extension : String) : Option Language :=
  all.find? fun l => l.extensions.contains (Text.asciiLower extension)

/-- The language in JSON. -/
def toJson (l : Language) : Json :=
  .ofText l.name

/-- The language that a JSON constant names. -/
def ofJson? (v : Json) : Option Language :=
  v.toName?.bind ofName?

end Language
end TableLexer
