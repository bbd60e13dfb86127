import BodyCheck.FileTree
import BodyCheck.FileTree.Pattern

/-!
# Expanding patterns

The paths in a tree of files that match a pattern.  A pattern is followed name by name from the
directory where it starts.  The names in a directory are visited in their order, and everything
below one of them before the next.  Where a directory does not give its names out, that is found in
their stead.
-/

namespace BodyCheck

/-- A name in a pattern. -/
inductive PatternName where
  /-- The name itself. -/
  | literal (name : String)
  /-- Any name that matches. -/
  | wild (parts : List PatternPart)
  /-- Any number of directories. -/
  | directories
deriving DecidableEq, Repr

namespace PatternName

/-- A name from its text. -/
def read (text : List Char) : Except PatternError PatternName := do
  match ← Pattern.read text with
  | [.directories] => return .directories
  | parts =>
    match Pattern.literal? parts with
    | some name => return .literal (String.ofList name)
    | none => return .wild parts

/-- A name matches. -/
def accept (name : String) : PatternName → Bool
  | .literal name' => name == name'
  | .wild parts => Pattern.accept parts name.toList
  | .directories => true

/-- The directory itself and the one around it are named by a dot and by two dots.  They match only
if the pattern begins with a dot. -/
def specials : PatternName → List String
  | .wild (.char '.' :: parts) =>
    ["..", "."].filter fun name => Pattern.accept (.char '.' :: parts) name.toList
  | _ => []

end PatternName

/-! ## What is found -/

/-- A directory does not give its names out. -/
structure ListingError where
  path : String
  reason : FileError
deriving DecidableEq, Repr

/-- The wording of an error. -/
def ListingError.message (e : ListingError) : String :=
  "attempting to read `" ++ e.path ++ "` resulted in an error: " ++ e.reason.message

/-! ## Paths that grow -/

/-- A path leads to where it starts. -/
def isHere (path : String) : Bool :=
  match FileTree.names path.toList with
  | ['.'] :: rest => rest.all fun name => name.isEmpty || name == ['.']
  | _ => false

/-- A path with a name behind it. -/
def joinName (path name : String) : String :=
  if path = "" || path.toList.getLast? == some '/' then path ++ name else path ++ "/" ++ name

/-- The path of a name in a directory. -/
def inside (path name : String) : String := if isHere path then name else joinName path name

namespace FileTree

/-! ## Following a pattern -/

/-- The greatest number of names on the way to anything. -/
def depth (t : FileTree) : Nat :=
  (t.workingDirectory :: t.directories ++ t.files.map (·.1)).foldl
    (fun n place => max n place.length) 0

/-- The paths below a directory with their names, every directory before what stands in it.  The
bound says how deep they can be. -/
def below (t : FileTree) : (bound : Nat) → (path : String) →
    List (Except ListingError (String × String))
  | 0, _ => []
  | n + 1, path =>
    match t.list path with
    | .error reason => [.error ⟨path, reason⟩]
    | .ok names => names.flatMap fun name =>
        .ok (inside path name, name) :: t.below n (inside path name)

/-- The paths below a directory with their names. -/
def allBelow (t : FileTree) (path : String) : List (Except ListingError (String × String)) :=
  t.below (t.depth + 1) path

/-- What is found is a directory, or says that a directory could not be looked into. -/
def keepsDirectory (t : FileTree) : Except ListingError String → Bool
  | .ok path => t.isDirectory path
  | .error _ => true

/-- The paths that names lead to from a path. -/
def follow (t : FileTree) : List PatternName → (path : String) →
    List (Except ListingError String)
  | [], path => [.ok path]
  | .literal name :: rest, path =>
    if t.holds (inside path name) then t.follow rest (inside path name) else []
  | .directories :: .directories :: rest, path => t.follow (.directories :: rest) path
  | [.directories], path =>
    ((t.allBelow path).map fun found => found.map (·.1)).filter t.keepsDirectory
  | .directories :: next :: rest, path =>
    (t.allBelow path).flatMap fun
      | .ok (path, name) => if next.accept name then t.follow rest path else []
      | .error e => [.error e]
  | .wild parts :: rest, path =>
    if !t.isDirectory path then []
    else
      match t.list path with
      | .error reason => [.error ⟨path, reason⟩]
      | .ok names =>
        (PatternName.specials (.wild parts)).flatMap
            (fun name => t.follow rest (joinName path name))
          ++ names.flatMap fun name =>
            if Pattern.accept parts name.toList then t.follow rest (inside path name) else []
termination_by structural names _ => names

/-- The names of a pattern.  A slash behind the last one is no name. -/
def patternNames (text : List Char) : List (List Char) :=
  match text.reverse with
  | [] => []
  | '/' :: _ => (names text).dropLast
  | _ => names text

/-- The paths that match a pattern.  A slash at its end asks for directories. -/
def expand (t : FileTree) (pattern : String) :
    Except PatternError (List (Except ListingError String)) := do
  let text := pattern.toList
  let _ ← Pattern.read text
  let (path, text) := match text with
    | '/' :: rest => ("/", rest)
    | _ => (".", text)
  let found := t.follow (← (patternNames text).mapM PatternName.read) path
  return if text.getLast? == some '/' then found.filter t.keepsDirectory else found

end FileTree

example : inside "." "a" = "a" := by decide
example : inside "a/" "b" = "a/b" := by decide

end BodyCheck
