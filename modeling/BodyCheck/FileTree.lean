/-!
# Trees of files

A tree of files as a program sees it: the files with what they hold, the directories, and the
directory that relative paths start from.  A file or a directory is known by the names on the way
from the root to it, and every way that leads to something leads through directories.

A file or a directory can be sealed.  Then it is still there, and paths lead through it, but neither
the text of the file nor the names in the directory are given out.

A path is a text of names between slashes.  `FileTree.locate` walks along it.  It leaves a node by
a further name only if the node is a directory, and an empty name or a dot stays where it is, so a
slash behind the last name asks for a directory as well.
-/

namespace BodyCheck

/-- What a file holds. -/
inductive Content where
  | text (s : String)
  /-- Bytes that are no text. -/
  | binary
deriving DecidableEq, Repr

/-- The content that bytes stand for. -/
def Content.ofBytes (bytes : ByteArray) : Content :=
  match String.fromUTF8? bytes with
  | some s => .text s
  | none => .binary

/-- Why files cannot be read or written. -/
inductive FileError where
  /-- Nothing stands there. -/
  | absent
  /-- Something stands there already. -/
  | present
  /-- A path goes on behind a file. -/
  | notDirectory
  | isDirectory
  /-- A name or a path is too long. -/
  | tooLong
  /-- A path holds the character zero. -/
  | zeroInPath
  /-- What stands there is not given out. -/
  | denied
  /-- A file holds no text. -/
  | noText
deriving DecidableEq, Repr

/-- The wording of an error. -/
def FileError.message : FileError → String
  | .absent => "No such file or directory (os error 2)"
  | .present => "File exists (os error 17)"
  | .notDirectory => "Not a directory (os error 20)"
  | .isDirectory => "Is a directory (os error 21)"
  | .tooLong => "File name too long (os error 36)"
  | .zeroInPath => "file name contained an unexpected NUL byte"
  | .denied => "Permission denied (os error 13)"
  | .noText => "stream did not contain valid UTF-8"

/-- The names on the way from the root to a file or a directory. -/
abbrev Location := List String

/-- A tree of files. -/
structure FileTree where
  files : List (Location × Content)
  /-- Directories.  Every place on the way to a file or to one of these is a directory too. -/
  directories : List Location
  /-- Where relative paths start. -/
  workingDirectory : Location
  /-- Places whose contents are not given out. -/
  sealed : List Location := []
deriving Repr

/-- Something in a tree of files. -/
inductive Entry where
  | file (content : Content)
  | directory
deriving DecidableEq, Repr

namespace FileTree

/-! ## Places -/

/-- The first name behind a place on the way to another one. -/
def nameBelow? : (place other : Location) → Option String
  | [], name :: _ => some name
  | a :: place, b :: other => if a = b then nameBelow? place other else none
  | _, [] => none

/-- A place is a directory. -/
def hasDirectory (t : FileTree) (place : Location) : Bool :=
  place.isPrefixOf t.workingDirectory || t.directories.any place.isPrefixOf
    || t.files.any fun f => (nameBelow? place f.1).isSome

/-- What stands at a place. -/
def entry? (t : FileTree) (place : Location) : Option Entry :=
  match t.files.find? (·.1 == place) with
  | some (_, content) => some (.file content)
  | none => if t.hasDirectory place then some .directory else none

/-- A name put among sorted names. -/
def insertName (name : String) : List String → List String
  | [] => [name]
  | other :: rest =>
    if name < other then name :: other :: rest
    else if name = other then other :: rest
    else other :: insertName name rest

/-- The names in a directory, sorted. -/
def namesIn (t : FileTree) (place : Location) : List String :=
  let places := t.workingDirectory :: t.directories ++ t.files.map (·.1)
  (places.filterMap (nameBelow? place)).foldr insertName []

/-! ## Paths -/

/-- The names between the slashes of a path. -/
def names : List Char → List (List Char)
  | [] => [[]]
  | '/' :: rest => [] :: names rest
  | ch :: rest =>
    match names rest with
    | name :: more => (ch :: name) :: more
    | [] => [[ch]]

/-- The place where a path starts, and the names it goes along. -/
def start (t : FileTree) (path : String) : Location × List String :=
  match (names path.toList).map String.ofList with
  | "" :: rest => ([], rest)
  | all => (t.workingDirectory, all)

/-- The greatest number of bytes in a name. -/
def greatestName : Nat := 255

/-- The greatest number of bytes in a path. -/
def greatestPath : Nat := 4095

/-- Goes on from a place by a name. -/
def enter (t : FileTree) (place : Location) (name : String) : Except FileError Location :=
  match t.entry? place with
  | none => .error .absent
  | some (.file _) => .error .notDirectory
  | some .directory =>
    if name = "" || name = "." then .ok place
    else if name = ".." then .ok place.dropLast
    else if name.utf8ByteSize > greatestName then .error .tooLong
    else .ok (place ++ [name])

/-- A text can be a path at all. -/
def checkPath (path : String) : Except FileError Unit :=
  if path.toList.contains '\x00' then .error .zeroInPath
  else if path = "" then .error .absent
  else if path.utf8ByteSize > greatestPath then .error .tooLong
  else .ok ()

/-- The place that a path leads to, where something may stand. -/
def locate (t : FileTree) (path : String) : Except FileError Location := do
  checkPath path
  let (place, names) := t.start path
  names.foldlM t.enter place

/-- What stands where a path leads to. -/
def at? (t : FileTree) (path : String) : Except FileError Entry := do
  match t.entry? (← t.locate path) with
  | some e => return e
  | none => throw .absent

/-- What stands where a path leads to is given out. -/
def checkOpen (t : FileTree) (path : String) : Except FileError Unit := do
  if t.sealed.contains (← t.locate path) then throw .denied

/-- The text of a file. -/
def read (t : FileTree) (path : String) : Except FileError String := do
  let entry ← t.at? path
  t.checkOpen path
  match entry with
  | .file (.text s) => return s
  | .file .binary => throw .noText
  | .directory => throw .isDirectory

/-- A path leads to something. -/
def holds (t : FileTree) (path : String) : Bool :=
  match t.at? path with
  | .ok _ => true
  | .error _ => false

/-- A path leads to a directory. -/
def isDirectory (t : FileTree) (path : String) : Bool :=
  match t.at? path with
  | .ok .directory => true
  | _ => false

/-- The names in the directory that a path leads to, sorted.  What is no directory has none. -/
def list (t : FileTree) (path : String) : Except FileError (List String) := do
  if t.isDirectory path then
    t.checkOpen path
    return t.namesIn (← t.locate path)
  else return []

end FileTree

end BodyCheck
