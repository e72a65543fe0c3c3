/-!
# Paths

A path is kept as it is written.  Its parts are what stands between slashes; empty parts
and single dots name nothing of their own.  The extension is what follows the last dot of
the last part, unless that dot begins the part.
-/

namespace TableLexer

/-- A path as it is written. -/
structure Path where
  text : String
deriving DecidableEq, Repr

namespace Path

/-- The pieces between slashes, behind a piece already begun, whose characters are newest
first. -/
def piecesFrom (current : List Char) : List Char → List String
  | [] => [String.ofList current.reverse]
  | c :: rest =>
    if c = '/' then String.ofList current.reverse :: piecesFrom [] rest
    else piecesFrom (c :: current) rest

/-- The pieces between slashes. -/
def pieces (p : Path) : List String :=
  piecesFrom [] p.text.toList

/-- The parts that name something. -/
def parts (p : Path) : List String :=
  p.pieces.filter fun s => s != "" && s != "."

/-- The path can only name a directory: it ends in a slash or in a single dot. -/
def namesDirectory (p : Path) : Bool :=
  match p.pieces.getLast? with
  | some s => s == "" || s == "."
  | none => true

/-- The path ends in a slash. -/
def endsInSlash (p : Path) : Bool :=
  p.text.toList.getLast? == some '/'

/-- The name at the end of the path, slashes behind it not counted; dots are no name. -/
def finalName? (p : Path) : Option String :=
  match (p.pieces.filter (· != "")).getLast? with
  | some "." => none
  | some ".." => none
  | other => other

/-- The name that the path ends in. -/
def fileName? (p : Path) : Option String :=
  match p.parts.getLast? with
  | some ".." => none
  | other => other

/-- What follows the last dot, and whether something stands before that dot. -/
def extensionOf (name : List Char) : Option (List Char) :=
  let after := (name.reverse.takeWhile (· != '.')).reverse
  if after.length + 1 < name.length then some after else none

/-- The extension of the path. -/
def extension? (p : Path) : Option String :=
  match p.fileName? with
  | some name => (extensionOf name.toList).map String.ofList
  | none => none

/-- The path of a name inside a directory. -/
def join (p : Path) (name : String) : Path :=
  if p.text.isEmpty then ⟨name⟩
  else if p.text.toList.getLast? = some '/' then ⟨p.text ++ name⟩
  else ⟨p.text ++ "/" ++ name⟩

/-- The path has a character that no file name can have. -/
def hasNul (p : Path) : Bool :=
  p.text.toList.contains '\x00'

end Path
end TableLexer
