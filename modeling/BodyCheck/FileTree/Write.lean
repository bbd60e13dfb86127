import BodyCheck.FileTree

/-!
# Writing into trees of files

A text is written to a path, and the directories on the way to it are made first.  The parent of a
path is found in its text: what is left without the last name, the slashes around it, and names
that are a dot and stand behind another one.
-/

namespace BodyCheck

/-! ## Parents -/

/-- A reversed path without slashes and dots that do not lead anywhere.  The slash of the root
stays. -/
def trimReversed : List Char → List Char
  | ['/'] => ['/']
  | '/' :: rest => trimReversed rest
  | ['.', '/'] => ['/']
  | '.' :: '/' :: rest => trimReversed rest
  | path => path

/-- The path around a path.  The root has none. -/
def parentPath? (path : String) : Option String :=
  match trimReversed path.toList.reverse with
  | [] | ['/'] => none
  | trimmed =>
    some (String.ofList (trimReversed (trimmed.dropWhile (· != '/'))).reverse)

namespace FileTree

/-! ## Directories -/

/-- Makes a directory behind other names. -/
def makeDirectory (t : FileTree) (place : Location) (names : List String) (name : String) :
    Except FileError FileTree := do
  let place ← t.enter (← names.foldlM t.enter place) "."
  if name = "." || name = ".." then throw .present
  let place ← t.enter place name
  match t.entry? place with
  | some _ => throw .present
  | none => return { t with directories := place :: t.directories }

/-- Something that may already be there is a directory. -/
def unlessPresent (t : FileTree) (place : Location) (names : List String) :
    Except FileError FileTree → Except FileError FileTree
  | .error .present =>
    match (names.foldlM t.enter place).map t.entry? with
    | .ok (some .directory) => .ok t
    | _ => .error .present
  | outcome => outcome

/-- Makes a directory, and first the directories around it that are absent.  The names are given in
reverse. -/
def makeAll (t : FileTree) (place : Location) : (reversed : List String) → Except FileError FileTree
  | [] => .ok t
  | name :: above =>
    let make (t : FileTree) : Except FileError FileTree :=
      t.unlessPresent place (above.reverse ++ [name])
        (t.makeDirectory place above.reverse name)
    match make t with
    | .error .absent => do make (← makeAll t place above)
    | outcome => outcome

/-- Makes the directory that a path leads to, and all directories on the way. -/
def makeDirectories (t : FileTree) (path : String) : Except FileError FileTree :=
  if path = "" then .ok t
  else do
    checkPath path
    let (place, names) := t.start path
    let named := names.filter fun name => name != "" && name != "."
    makeAll t place named.reverse

/-! ## Files -/

/-- Files with another one, which takes the place of the one that stands there. -/
def putFile (place : Location) (content : Content) :
    List (Location × Content) → List (Location × Content)
  | [] => [(place, content)]
  | f :: rest => if f.1 = place then (place, content) :: rest else f :: putFile place content rest

/-- Writes a text to a path. -/
def write (t : FileTree) (path text : String) : Except FileError FileTree := do
  checkPath path
  let (place, names) := t.start path
  match names.reverse.dropWhile (· == "") with
  | [] => throw .isDirectory
  | last :: above =>
    let place ← t.enter (← above.reverse.foldlM t.enter place) "."
    if last = "." || last = ".." || names.getLast? == some "" then throw .isDirectory
    let place ← t.enter place last
    match t.entry? place with
    | some .directory => throw .isDirectory
    | _ => return { t with files := putFile place (.text text) t.files }

end FileTree

example : parentPath? "a//b/./c/" = some "a//b" := by decide
example : parentPath? "./c" = some "." := by decide
example : parentPath? "c" = some "" := by decide
example : parentPath? "/c" = some "/" := by decide

end BodyCheck
