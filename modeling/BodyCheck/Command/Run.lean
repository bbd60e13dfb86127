import BodyCheck.Command.Documents
import BodyCheck.Command.Line
import BodyCheck.Config.Reader
import BodyCheck.FileTree.Write

/-!
# Runs

A command on files, a standard input and what lies around its filter.  The options are settled
first, then the documents are loaded, and then every document is treated by itself.  A single result
is shown as it is; several are shown in the order of their documents, each with the label of its
document.  Nothing is written before everything else has succeeded.
-/

namespace BodyCheck

/-- What a run leaves behind. -/
structure Outcome where
  /-- What is shown. -/
  output : String
  files : FileTree
deriving Repr

/-! ## Options -/

/-- The options in the file of a configuration. -/
def readConfig (files : FileTree) (path : String) : Except RunError Options := do
  let text ← (files.read path).mapError (.unreadableConfig path)
  (Config.parse text).mapError fun f =>
    .invalidConfig path (f.errorText text.toList) (f.message text.toList)

/-- The configuration that flags name. -/
def Flags.readConfig (flags : Flags) (files : FileTree) : Except RunError (Option Options) :=
  match flags.config with
  | none => .ok none
  | some path => (BodyCheck.readConfig files path).map some

/-- The options of a test. -/
def Flags.resolveTest (flags : Flags) (files : FileTree) : Except RunError Options := do
  let config ← flags.readConfig files
  (flags.testOptions config).mapError (.invalidPort (flags.test.port.getD ""))

/-- The options of a list of checks. -/
def Flags.resolveChecks (flags : Flags) (files : FileTree) : Except RunError Options := do
  return flags.checkOptions (← flags.readConfig files)

/-! ## Results -/

/-- The results of a function on documents, with their labels. -/
def perDocument {α : Type} (f : Json → Except CompileError α)
    (wrap : String → CompileError → RunError) :
    List (Labelled Json) → Except RunError (List (Labelled α))
  | [] => .ok []
  | d :: rest => do
    let result ← (f d.content).mapError (wrap d.label)
    return ⟨d.label, result⟩ :: (← perDocument f wrap rest)

/-- A test under its label. -/
def labelledSource (d : Labelled String) : String := "// " ++ d.label ++ "\n" ++ d.content

/-- Tests as one text. -/
def showSources : List (Labelled String) → String
  | [d] => d.content
  | ds => "\n\n".intercalate (ds.map labelledSource)

/-- Checks as a list. -/
def checkList (checks : List Check) : Json := .array (checks.map Check.toJson)

/-- Checks under their label. -/
def labelledChecks (d : Labelled (List Check)) : Json :=
  .object [("source", .string d.label), ("assertions", checkList d.content)]

/-- Lists of checks as one text. -/
def showChecks : List (Labelled (List Check)) → String
  | [d] => (checkList d.content).prettyText
  | ds => (Json.array (ds.map labelledChecks)).prettyText

/-- The tests of documents, as one text. -/
def testBatch (options : Options) (documents : List (Labelled Json)) : Except RunError String := do
  return showSources (← perDocument (compileValue options) .notCompiled documents)

/-- The checks of documents, as one text. -/
def checkBatch (options : Options) (documents : List (Labelled Json)) : Except RunError String := do
  return showChecks (← perDocument (checksOf options.checks) .notAnalyzed documents)

/-! ## Runs -/

/-- What a test command shows. -/
def Flags.testText (flags : Flags) (files : FileTree) (input : Content)
    (around : Filter.Surroundings) : Except RunError String := do
  let options ← flags.resolveTest files
  let documents ← flags.input.documents files input around
  testBatch options documents

/-- What a command for checks shows. -/
def Flags.checksText (flags : Flags) (files : FileTree) (input : Content)
    (around : Filter.Surroundings) : Except RunError String := do
  let options ← flags.resolveChecks files
  let documents ← flags.input.documents files input around
  checkBatch options documents

/-- Makes the directory around a path. -/
def createParent (files : FileTree) (path : String) : Except RunError FileTree :=
  match parentPath? path with
  | none => .ok files
  | some parent => (files.makeDirectories parent).mapError (.notCreated parent)

/-- Puts a text out: on the standard output as a line, or into a file as it is. -/
def putOut (files : FileTree) (out : Option String) (text : String) : Except RunError Outcome :=
  match out with
  | none => .ok ⟨text ++ "\n", files⟩
  | some path => do
    let files ← createParent files path
    let files ← (files.write path text).mapError (.notWritten path)
    return ⟨"", files⟩

/-- What a command shows. -/
def Invocation.text (c : Invocation) (files : FileTree) (input : Content)
    (around : Filter.Surroundings) : Except RunError String :=
  match c.verb with
  | .test => c.flags.testText files input around
  | .assertions => c.flags.checksText files input around

/-- Runs a command. -/
def Invocation.run (c : Invocation) (files : FileTree) (input : Content)
    (around : Filter.Surroundings) : Except RunError Outcome := do
  putOut files c.flags.out (← c.text files input around)

end BodyCheck
