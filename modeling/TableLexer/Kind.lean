import TableLexer.Json.Shape

/-!
# Kinds of tokens

The classes that the rule tables sort text into.  Blanks and comments are recognised but
never emitted; they only move the line count on.
-/

namespace TableLexer

/-- The class of a piece of text. -/
inductive Kind where
  | keyword
  | identifier
  | number
  | string
  | operator
  | tag
  | attr
  | text
  | selector
  | property
  | value
  | comment
  | delimiter
  | whitespace
  | unknown
deriving DecidableEq, Repr

namespace Kind

/-- Every kind, in the order in which they are listed. -/
def all : List Kind :=
  [keyword, identifier, number, string, operator, tag, attr, text, selector,
   property, value, comment, delimiter, whitespace, unknown]

/-- The name of the kind, as reports print it. -/
def name : Kind → String
  | keyword => "KEYWORD"
  | identifier => "IDENTIFIER"
  | number => "NUMBER"
  | string => "STRING"
  | operator => "OPERATOR"
  | tag => "TAG"
  | attr => "ATTRIBUTE"
  | text => "TEXT"
  | selector => "SELECTOR"
  | property => "PROPERTY"
  | value => "VALUE"
  | comment => "COMMENT"
  | delimiter => "DELIMITER"
  | whitespace => "WHITESPACE"
  | unknown => "UNKNOWN"

/-- The kind with the given name. -/
def ofName? (s : String) : Option Kind :=
  all.find? fun k => k.name == s

/-- Text of this kind only moves the line count on. -/
def isFiltered : Kind → Bool
  | whitespace | comment => true
  | _ => false

/-- The kind in JSON. -/
def toJson (k : Kind) : Json :=
  .ofText k.name

/-- The kind that a JSON constant names. -/
def ofJson? (v : Json) : Option Kind :=
  v.toName?.bind ofName?

end Kind
end TableLexer
