import BodyCheck.Command.Flags
import BodyCheck.Command.RunError
import BodyCheck.FileTree.Expand
import BodyCheck.Json.Pointer

/-!
# Documents

The documents that a command is about.  First every source is found, then every source is read, and
only then are the texts parsed and the bodies selected, one document after the other.
-/

namespace BodyCheck

/-! ## Sources -/

/-- Where a text comes from. -/
inductive Source where
  | standardInput
  | file (path : String)
deriving DecidableEq, Repr

/-- A character that makes a path a pattern. -/
def isPatternChar (c : Char) : Bool := c == '*' || c == '?' || c == '[' || c == '\x7b'

/-- The paths that match a pattern. -/
def pathsOf (files : FileTree) (pattern : String) : Except RunError (List String) := do
  let found ← (files.expand pattern).mapError (.invalidPattern pattern)
  match ← found.mapM (·.mapError .unlistedDirectory) with
  | [] => throw (.noMatch pattern)
  | paths => return paths

/-- The sources that an input stands for. -/
def sourcesOf (files : FileTree) (input : String) : Except RunError (List Source) :=
  if input = "-" then .ok [.standardInput]
  else if !input.toList.any isPatternChar then .ok [.file input]
  else (pathsOf files input).map (·.map .file)

/-- The sources that inputs stand for. -/
def resolveSources (files : FileTree) : List String → Except RunError (List Source)
  | [] => .ok []
  | input :: rest => do
    let sources ← sourcesOf files input
    return sources ++ (← resolveSources files rest)

/-! ## Texts -/

/-- A text and the name of its source. -/
structure Labelled (α : Type) where
  label : String
  content : α
deriving DecidableEq, Repr

/-- The text on the standard input. -/
def inputText : Content → Except RunError String
  | .text s => .ok s
  | .binary => .error (.unreadableInput .noText)

/-- The text of a source, and what is left on the standard input. -/
def readSource (files : FileTree) (input : Content) :
    Source → Except RunError (Labelled String × Content)
  | .standardInput => do return (⟨"<stdin>", ← inputText input⟩, .text "")
  | .file path =>
    match files.read path with
    | .ok s => .ok (⟨path, s⟩, input)
    | .error e => .error (.unreadableSource path e)

/-- The texts of sources.  The first one that is the standard input takes all of it. -/
def readSources (files : FileTree) (input : Content) :
    List Source → Except RunError (List (Labelled String))
  | [] => .ok []
  | source :: rest => do
    let (text, input) ← readSource files input source
    return text :: (← readSources files input rest)

/-- The texts that flags name. -/
def InputFlags.texts (flags : InputFlags) (files : FileTree) (input : Content) :
    Except RunError (List (Labelled String)) := do
  let sources ← resolveSources files flags.sources
  let texts ← readSources files input sources
  return (flags.inlineText.map (Labelled.mk "<inline>")).toList ++ texts

/-! ## Bodies -/

/-- The part of a document that a pointer names, or all of it. -/
def Selection.byPointer (s : Selection) (v : Json) : Except SelectionError Json :=
  match s.pointer with
  | none => .ok v
  | some pointer =>
    match v.pointer? pointer with
    | some found => .ok found
    | none => .error (.unmatched pointer)

/-- The part of a document that a filter selects, or all of it. -/
def Selection.byFilter (s : Selection) (around : Filter.Surroundings) (v : Json) :
    Except SelectionError Json :=
  match s.filter with
  | none => .ok v
  | some filter => (Filter.select around filter v).mapError .filter

/-- The body in a document. -/
def Selection.body (s : Selection) (around : Filter.Surroundings) (v : Json) :
    Except SelectionError Json := do
  s.byFilter around (← s.byPointer v)

/-- The body in the text of a document. -/
def Selection.read (s : Selection) (around : Filter.Surroundings) (text : Labelled String) :
    Except RunError (Labelled Json) := do
  let v ← (Json.parse text.content).mapError (.malformedSource text.label)
  let body ← (s.body around v).mapError (.noBody text.label)
  return ⟨text.label, body⟩

/-- The bodies in the texts of documents. -/
def Selection.readAll (s : Selection) (around : Filter.Surroundings) :
    List (Labelled String) → Except RunError (List (Labelled Json))
  | [] => .ok []
  | text :: rest => do
    let body ← s.read around text
    return body :: (← s.readAll around rest)

/-- The bodies that a command is about. -/
def InputFlags.documents (flags : InputFlags) (files : FileTree) (input : Content)
    (around : Filter.Surroundings) : Except RunError (List (Labelled Json)) := do
  flags.selection.readAll around (← flags.texts files input)

end BodyCheck
