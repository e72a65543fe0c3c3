import TableLexer.Toml.Scalar

/-!
# Reading TOML documents

A document is a sequence of lines: headers, assignments, comments and blank lines.  Arrays
may run over several lines, inline tables may not.  Values are nested less than 80 deep,
and a dotted key has less than 80 parts.
-/

namespace TableLexer
namespace Toml

/-- The depth at which nested values and dotted keys are refused. -/
def depthLimit : Nat := 80

/-- The character may stand in a bare key. -/
def isBare (c : Char) : Bool :=
  c.isAlphanum || c == '_' || c == '-'

/-- Reads one part of a key. -/
def readKeyPart (cs : List Char) : Option (String × List Char) :=
  match cs with
  | '"' :: _ | '\'' :: _ => readLineString cs
  | cs =>
    match cs.span isBare with
    | ([], _) => none
    | (name, rest) => some (String.ofList name, rest)

/-- Reads the parts of a dotted key, in front of those already read. -/
def readKeyParts : Nat → List String → List Char → Option (List String × List Char)
  | 0, _, _ => none
  | n + 1, found, cs =>
    match readKeyPart (skipGap cs) with
    | none => none
    | some (part, rest) =>
      match skipGap rest with
      | '.' :: rest => readKeyParts n (part :: found) rest
      | rest => some (part :: found, rest)

/-- A dotted key: the path to its last part, and that part. -/
structure Key where
  path : List String
  last : String
deriving Repr

/-- Reads a dotted key with the gaps around it. -/
def readKey (cs : List Char) : Option (Key × List Char) :=
  match readKeyParts depthLimit [] cs with
  | some (last :: path, rest) =>
    if path.length + 1 < depthLimit then some (⟨path.reverse, last⟩, rest) else none
  | _ => none

/-- Reads a comment, if there is one; the line break behind it is not taken. -/
def skipComment : List Char → List Char
  | '#' :: rest => rest.dropWhile isPlain
  | cs => cs

/-- The text after gaps, comments and line breaks.  The number bounds the steps. -/
def skipLines : Nat → List Char → List Char
  | 0, cs => cs
  | n + 1, cs =>
    match dropLineBreak? (skipComment (skipGap cs)) with
    | some rest => skipLines n rest
    | none => skipComment (skipGap cs)

mutual

/--
Reads a value.  The first number bounds the steps and the second one the depth that is
left.
-/
def readValue : Nat → Nat → List Char → Option (Toml × List Char)
  | 0, _, _ => none
  | n + 1, depth, cs =>
    match cs with
    | '"' :: _ | '\'' :: _ => (readString cs).map fun (s, rest) => (string s, rest)
    | '[' :: rest =>
      match depth with
      | 0 => none
      | depth + 1 =>
        (readElements n depth [] rest).map fun (vs, rest) => (array vs, rest)
    | '\x7b' :: rest =>
      match depth with
      | 0 => none
      | depth + 1 =>
        match skipGap rest with
        | '\x7d' :: rest => some (table .inline [], rest)
        | rest =>
          (readPairs n depth [] rest).map fun (es, rest) => (table .inline es, rest)
    | cs => readPlain cs

/-- Reads the elements of an array and its closing bracket, in front of those already
read. -/
def readElements : Nat → Nat → List Toml → List Char → Option (List Toml × List Char)
  | 0, _, _, _ => none
  | n + 1, depth, found, cs =>
    match skipLines cs.length cs with
    | ']' :: rest => some (found.reverse, rest)
    | cs =>
      match readValue n depth cs with
      | none => none
      | some (v, rest) =>
        match skipLines rest.length rest with
        | ',' :: rest => readElements n depth (v :: found) rest
        | ']' :: rest => some ((v :: found).reverse, rest)
        | _ => none

/-- Reads the entries of an inline table and its closing brace, on top of those already
read. -/
def readPairs : Nat → Nat → List (String × Toml) → List Char →
    Option (List (String × Toml) × List Char)
  | 0, _, _, _ => none
  | n + 1, depth, entries, cs =>
    match readKey cs with
    | some (key, '=' :: rest) =>
      match readValue n depth (skipGap rest) with
      | none => none
      | some (v, rest) =>
        match assign key.path key.last v .header entries with
        | none => none
        | some (_, entries) =>
          match skipGap rest with
          | ',' :: rest => readPairs n depth entries rest
          | '\x7d' :: rest => some (entries, rest)
          | _ => none
    | _ => none

end

/-- The end of a line: a gap, a comment, and a line break or the end of the text. -/
def readLineEnd (cs : List Char) : Option (List Char) :=
  match skipComment (skipGap cs) with
  | [] => some []
  | cs => dropLineBreak? cs

/-- The document read so far and the path of the table that assignments go to. -/
structure DocumentPart where
  entries : List (String × Toml) := []
  header : List String := []
deriving Repr

namespace DocumentPart

/-- Changes a table on the path of a header. -/
def change (d : DocumentPart) (path : List String)
    (f : TableOrigin → List (String × Toml) →
      Option (TableOrigin × List (String × Toml))) :
    Option (List (String × Toml)) :=
  (changeAt false f path .header d.entries).map Prod.snd

/-- The document after a header. -/
def open? (d : DocumentPart) (key : Key)
    (f : String → TableOrigin → List (String × Toml) →
      Option (TableOrigin × List (String × Toml))) : Option DocumentPart :=
  (d.change key.path (f key.last)).map fun entries => ⟨entries, key.path ++ [key.last]⟩

/-- The document after an assignment. -/
def assign? (d : DocumentPart) (key : Key) (v : Toml) : Option DocumentPart :=
  (d.change d.header (assign key.path key.last v)).map fun entries => ⟨entries, d.header⟩

end DocumentPart

/-- Reads a doubly bracketed header, whose opening brackets have been taken. -/
def readRowHeader (d : DocumentPart) (cs : List Char) :
    Option (DocumentPart × List Char) :=
  match readKey cs with
  | some (key, ']' :: ']' :: rest) => (d.open? key openRow).map fun d => (d, rest)
  | _ => none

/-- Reads a header, whose opening bracket has been taken. -/
def readHeader (d : DocumentPart) (cs : List Char) : Option (DocumentPart × List Char) :=
  match readKey cs with
  | some (key, ']' :: rest) => (d.open? key openTable).map fun d => (d, rest)
  | _ => none

/-- Reads an assignment. -/
def readAssignment (d : DocumentPart) (cs : List Char) :
    Option (DocumentPart × List Char) :=
  match readKey cs with
  | some (key, '=' :: rest) =>
    match readValue (2 * rest.length + 2) (depthLimit - 1) (skipGap rest) with
    | some (v, rest) => (d.assign? key v).map fun d => (d, rest)
    | none => none
  | _ => none

/-- Reads what a line holds besides its comment. -/
def readLine (d : DocumentPart) (cs : List Char) : Option (DocumentPart × List Char) :=
  match skipGap cs with
  | [] => some (d, [])
  | '#' :: rest => some (d, '#' :: rest)
  | '\n' :: rest => some (d, '\n' :: rest)
  | '\r' :: rest => some (d, '\r' :: rest)
  | '[' :: '[' :: rest => readRowHeader d rest
  | '[' :: rest => readHeader d rest
  | cs => readAssignment d cs

/-- Reads the lines of a document.  The number bounds them. -/
def readDocument : Nat → DocumentPart → List Char → Option (List (String × Toml))
  | _, d, [] => some d.entries
  | 0, _, _ => none
  | n + 1, d, cs =>
    match readLine d cs with
    | none => none
    | some (d, rest) =>
      match readLineEnd rest with
      | none => none
      | some rest => readDocument n d rest

/-- Reads a whole text as a document; a byte order mark at its head is skipped. -/
def read? (s : String) : Option (List (String × Toml)) :=
  let cs := match s.toList with
    | '\ufeff' :: rest => rest
    | cs => cs
  readDocument (cs.length + 1) {} cs

end Toml
end TableLexer
