import TableLexer.Files.Path

/-!
# File trees

A directory tree as a value: files with their bytes, and folders with their children in the
order of the names, each name once.  Looking up, writing and creating follow a path from
the root and fail as the system does, with the first obstacle on the way.
-/

namespace TableLexer

/-- A failure that the system reports. -/
inductive SystemError where
  | notFound
  | permissionDenied
  | alreadyExists
  | notDirectory
  | isDirectory
  | badText
  | nulInName
deriving DecidableEq, Repr

/-- The system's words for a failure. -/
def SystemError.message : SystemError → String
  | notFound => "No such file or directory (os error 2)"
  | permissionDenied => "Permission denied (os error 13)"
  | alreadyExists => "File exists (os error 17)"
  | notDirectory => "Not a directory (os error 20)"
  | isDirectory => "Is a directory (os error 21)"
  | badText => "stream did not contain valid UTF-8"
  | nulInName => "file name contained an unexpected NUL byte"

/-- A file or a folder. -/
inductive FileTree where
  | file (content : ByteArray)
  | folder (children : List (String × FileTree))

namespace FileTree

/-- An empty folder. -/
def empty : FileTree := folder []

instance : Inhabited FileTree := ⟨empty⟩

/-- The node is a folder. -/
def isFolder : FileTree → Bool
  | folder _ => true
  | file _ => false

/-- The children of a folder; a file has none. -/
def children : FileTree → List (String × FileTree)
  | folder cs => cs
  | file _ => []

/-- The child with a name. -/
def child? (t : FileTree) (name : String) : Option FileTree :=
  t.children.lookup name

/-- The node at the end of a list of names. -/
def at? : FileTree → List String → Option FileTree
  | t, [] => some t
  | t, name :: names =>
    match t.child? name with
    | some c => c.at? names
    | none => none

/-- Children in the order of their names, with one more or another one in place of the
child that has the name. -/
def insertChild (name : String) (node : FileTree) :
    List (String × FileTree) → List (String × FileTree)
  | [] => [(name, node)]
  | (n, c) :: rest =>
    if name = n then (name, node) :: rest
    else if name < n then (name, node) :: (n, c) :: rest
    else (n, c) :: insertChild name node rest

/-- The tree with a node at the end of a list of names; missing folders on the way are
made. -/
def put (node : FileTree) : List String → FileTree → FileTree
  | [], _ => node
  | name :: names, t =>
    let old := (t.child? name).getD empty
    folder (insertChild name (put node names old) t.children)

/--
Follows names from a place, which is given by its own names from the root; `..` goes back
up, and the root is above itself.  The answer is the place that is reached.
-/
def follow (root : FileTree) (place : List String) :
    List String → Except SystemError (List String)
  | [] => .ok place
  | name :: names =>
    match root.at? place with
    | none => .error .notFound
    | some (file _) => .error .notDirectory
    | some (folder children) =>
      if name = ".." then
        follow root place.dropLast names
      else if (children.lookup name).isSome then
        follow root (place ++ [name]) names
      else
        .error .notFound

/-- The node that a path leads to. -/
def get (root : FileTree) (p : Path) : Except SystemError FileTree :=
  if p.hasNul then .error .nulInName
  else if p.text.isEmpty then .error .notFound
  else
    match follow root [] p.parts with
    | .error e => .error e
    | .ok place =>
      match root.at? place with
      | none => .error .notFound
      | some (file content) =>
        if p.namesDirectory then .error .notDirectory else .ok (file content)
      | some (folder children) => .ok (folder children)

/-- The path leads to a folder. -/
def hasFolder (root : FileTree) (p : Path) : Bool :=
  match root.get p with
  | .ok t => t.isFolder
  | .error _ => false

/-- The bytes of the file that a path leads to. -/
def readBytes (root : FileTree) (p : Path) : Except SystemError ByteArray :=
  match root.get p with
  | .ok (file content) => .ok content
  | .ok (folder _) => .error .isDirectory
  | .error e => .error e

/-- The text of the file that a path leads to. -/
def readText (root : FileTree) (p : Path) : Except SystemError String :=
  match root.readBytes p with
  | .error e => .error e
  | .ok bytes =>
    match String.fromUTF8? bytes with
    | some s => .ok s
    | none => .error .badText

/--
The place at which a path that is to be written ends, or nothing if the path can only lead
to a folder that is there.  Behind a name a slash is refused, whatever has the name.
-/
def target (root : FileTree) (p : Path) : Except SystemError (Option (List String)) :=
  match p.finalName? with
  | none =>
    match root.get p with
    | .error e => .error e
    | .ok _ => .ok none
  | some name =>
    if p.hasNul then .error .nulInName
    else
      match follow root [] p.parts.dropLast with
      | .error e => .error e
      | .ok place =>
        match root.at? place with
        | some (folder _) =>
          if p.endsInSlash then .error .isDirectory else .ok (some (place ++ [name]))
        | some (file _) => .error .notDirectory
        | none => .error .notFound

/-- The tree with a file of the given bytes, in place of the file that was there. -/
def write (root : FileTree) (p : Path) (content : ByteArray) :
    Except SystemError FileTree :=
  match root.target p with
  | .error e => .error e
  | .ok none => .error .isDirectory
  | .ok (some place) =>
    match root.at? place with
    | some (folder _) => .error .isDirectory
    | _ => .ok (put (file content) place root)

/-- The tree with a new file of the given bytes; nothing may be there before. -/
def create (root : FileTree) (p : Path) (content : ByteArray) :
    Except SystemError FileTree :=
  match root.target p with
  | .error e => .error e
  | .ok none => .error .alreadyExists
  | .ok (some place) =>
    if (root.at? place).isSome then .error .alreadyExists
    else .ok (put (file content) place root)

mutual

/-- The names from a node down to every file, in the order of the names. -/
def filePlaces : FileTree → List (List String)
  | file _ => [[]]
  | folder children => childPlaces children

/-- The names from a folder down to every file below its children. -/
def childPlaces : List (String × FileTree) → List (List String)
  | [] => []
  | (name, node) :: rest => (filePlaces node).map (name :: ·) ++ childPlaces rest

end

/-- The names with slashes between them. -/
def placeText (place : List String) : String :=
  "/".intercalate place

/-- The paths of all files, in the order of their texts. -/
def filePaths (root : FileTree) : List String :=
  (root.filePlaces.map placeText).mergeSort fun s t => decide (s ≤ t)

end FileTree
end TableLexer
