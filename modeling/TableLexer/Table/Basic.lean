import TableLexer.Kind
import TableLexer.Language
import TableLexer.Pattern.Matcher
import TableLexer.Pattern.Reader
import TableLexer.Text.Bytes

/-!
# Rule tables

A table is the list of a language's rules in order of preference: the first rule with a
match that is not empty decides.  Declared rules are compiled one by one.  Lenient
compilation drops the rules whose pattern cannot be read; strict compilation refuses the
first of them, and a table whose last rule does not take any single character of a fixed
set of probes.
-/

namespace TableLexer

/-- A rule as it is declared. -/
structure Declaration where
  kind : Kind
  pattern : String
deriving DecidableEq, Repr

/-- A rule whose pattern has been read. -/
structure Rule where
  kind : Kind
  /-- The pattern as it is declared. -/
  pattern : String
  /-- The matcher of the pattern behind the start of the text. -/
  matcher : Pattern.Matcher
deriving DecidableEq, Repr

namespace Rule

/-- The rule of a declaration, if its pattern can be read and is not too large. -/
def ofDeclaration? (d : Declaration) (properties : Pattern.PropertyClasses := .held) :
    Option Rule :=
  match Pattern.readRule? d.pattern.toList properties with
  | none => none
  | some p => (Pattern.Matcher.ofPattern? p).map fun m => ⟨d.kind, d.pattern, m⟩

/-- The number of characters up to the end of the rule's match, if it is not zero. -/
def matchChars? (r : Rule) (input : List Char) : Option Nat :=
  match r.matcher.search input with
  | some o => if o.stop = 0 then none else some o.stop
  | none => none

/-- The text up to the end of the rule's match, if it is not empty. -/
def matchText? (r : Rule) (input : List Char) : Option (List Char) :=
  (r.matchChars? input).map input.take

/-- The number of bytes up to the end of the rule's match, if it is not zero. -/
def matchBytes? (r : Rule) (input : List Char) : Option Nat :=
  (r.matchText? input).map Text.byteCount

/-- The rule takes the whole of a text of this one character. -/
def takesChar (r : Rule) (c : Char) : Bool :=
  r.matchText? [c] = some [c]

end Rule

/-- A language's rules in order of preference. -/
structure Table where
  language : Language
  rules : List Rule
deriving DecidableEq, Repr

/-- What is wrong with a table. -/
inductive TableError where
  /-- There are no rules. -/
  | empty (language : Language)
  /-- The pattern of the declaration with this index cannot be read. -/
  | invalidPattern (language : Language) (index : Nat) (kind : Kind)
  /-- The last rule does not take every probe. -/
  | missingCatchAll (language : Language)
deriving DecidableEq, Repr

namespace TableError

/-- The diagnostic code of the error. -/
def code : TableError → Code
  | empty _ => .emptyDefinition
  | invalidPattern .. => .invalidPattern
  | missingCatchAll _ => .missingCatchAll

/-- The language of the table. -/
def language : TableError → Language
  | empty l | invalidPattern l _ _ | missingCatchAll l => l

/-- The error for the reader; what is wrong with a pattern follows after the colon. -/
def message : TableError → String
  | empty l => "Language '" ++ l.name ++ "' has no rules"
  | invalidPattern l index kind =>
    "Invalid pattern for " ++ kind.name ++ " rule #" ++ toString index ++ " in '" ++
      l.name ++ "': "
  | missingCatchAll l => "Language '" ++ l.name ++ "' does not end with a catch-all rule"

end TableError

namespace Table

/-- The characters that a last rule has to take. -/
def probes : List Char :=
  ['a', '0', ' ', '\n', '\t', '"', '€', '<']

/-- What is wrong with the table: it has no rules, or its last rule does not take every
probe. -/
def check (t : Table) : Except TableError Unit :=
  match t.rules.getLast? with
  | none => .error (.empty t.language)
  | some last =>
    if probes.all last.takesChar then .ok () else .error (.missingCatchAll t.language)

/-- Compiles the declarations from an index on: the rules that can be read, and an error
for each of the others. -/
def compileFrom (language : Language) (index : Nat) (declarations : List Declaration)
    (properties : Pattern.PropertyClasses := .held) : List Rule × List TableError :=
  match declarations with
  | [] => ([], [])
  | d :: rest =>
    let (rules, errors) := compileFrom language (index + 1) rest properties
    match Rule.ofDeclaration? d properties with
    | some r => (r :: rules, errors)
    | none => (rules, .invalidPattern language index d.kind :: errors)

/-- The table of the declarations that can be read, and an error for each of the others. -/
def compileLenient (language : Language) (declarations : List Declaration)
    (properties : Pattern.PropertyClasses := .held) : Table × List TableError :=
  let (rules, errors) := compileFrom language 0 declarations properties
  (⟨language, rules⟩, errors)

/-- Compiles declarations up to the first one that cannot be read. -/
def compileAll (language : Language) (index : Nat) (declarations : List Declaration)
    (properties : Pattern.PropertyClasses := .held) : Except TableError (List Rule) :=
  match declarations with
  | [] => .ok []
  | d :: rest =>
    match Rule.ofDeclaration? d properties with
    | none => .error (.invalidPattern language index d.kind)
    | some r =>
      match compileAll language (index + 1) rest properties with
      | .ok rules => .ok (r :: rules)
      | .error e => .error e

/-- The table of the declarations, if all of them can be read and the table passes the
check. -/
def ofDeclarations (language : Language) (declarations : List Declaration)
    (properties : Pattern.PropertyClasses := .held) : Except TableError Table :=
  match compileAll language 0 declarations properties with
  | .error e => .error e
  | .ok rules =>
    match check ⟨language, rules⟩ with
    | .error e => .error e
    | .ok () => .ok ⟨language, rules⟩

/-- The kinds of the rules, each one once, in order of preference. -/
def kinds (t : Table) : List Kind :=
  t.rules.foldl (fun found r =>
    if found.contains r.kind then found else found ++ [r.kind]) []

/-- The kind of the first rule with a match that is not empty, and the length of that
match. -/
def matchHead? (t : Table) (input : List Char) : Option (Kind × Nat) :=
  t.rules.findSome? fun r => (r.matchChars? input).map fun n => (r.kind, n)

/-- The kind of the first rule with a match that is not empty, and the matched text. -/
def findMatch (t : Table) (input : List Char) : Option (Kind × List Char) :=
  (t.matchHead? input).map fun (kind, n) => (kind, input.take n)

end Table
end TableLexer
