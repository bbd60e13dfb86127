import BodyCheck.Compile
import BodyCheck.Config.Fault
import BodyCheck.FileTree.Expand
import BodyCheck.Filter.Select
import BodyCheck.Number.Bounded

/-!
# Failed runs

Why a command that was understood fails.  A message names the step that failed, what it was about,
and the reason, with colons between them.
-/

namespace BodyCheck

/-- Why a document has no body. -/
inductive SelectionError where
  /-- A pointer leads nowhere. -/
  | unmatched (pointer : String)
  | filter (e : Filter.SelectError)
deriving DecidableEq, Repr

/-- The wording of an error. -/
def SelectionError.message : SelectionError → String
  | .unmatched pointer => "JSON pointer " ++ pointer ++ " matched nothing"
  | .filter e => e.message

/-- Why a run fails. -/
inductive RunError where
  | unreadableConfig (path : String) (e : FileError)
  /-- A configuration is no configuration, for the reason given without its trail and with it. -/
  | invalidConfig (path reason located : String)
  | invalidPort (text : String) (e : NumeralError)
  | invalidPattern (pattern : String) (e : PatternError)
  /-- A directory that a pattern leads into does not give its names out. -/
  | unlistedDirectory (e : ListingError)
  | noMatch (pattern : String)
  | unreadableInput (e : FileError)
  | unreadableSource (path : String) (e : FileError)
  | malformedSource (label message : String)
  | noBody (label : String) (e : SelectionError)
  /-- The test for a document cannot be written. -/
  | notCompiled (label : String) (e : CompileError)
  /-- The checks of a document cannot be listed. -/
  | notAnalyzed (label : String) (e : CompileError)
  | notCreated (path : String) (e : FileError)
  | notWritten (path : String) (e : FileError)
deriving DecidableEq, Repr

/-- A message about a step, with the reason it failed for. -/
def because (step reason : String) : String := step ++ ": " ++ reason

/-- The wording of an error. -/
def RunError.message : RunError → String
  | .unreadableConfig path e => because ("failed to read config file " ++ path) e.message
  | .invalidConfig path reason located =>
    because ("invalid config file " ++ path) (because located reason)
  | .invalidPort text e => because ("invalid port: " ++ text) e.message
  | .invalidPattern pattern e => because ("invalid glob pattern: " ++ pattern) e.message
  | .unlistedDirectory e => e.message
  | .noMatch pattern => "glob pattern matched no files: " ++ pattern
  | .unreadableInput e => because "failed to read stdin" e.message
  | .unreadableSource path e => because ("failed to read source file " ++ path) e.message
  | .malformedSource label message =>
    because ("failed to parse JSON source (" ++ label ++ ")") message
  | .noBody label e => because ("failed to select response body (" ++ label ++ ")") e.message
  | .notCompiled label e => because ("failed to compile " ++ label) e.message
  | .notAnalyzed label e => because ("failed to analyze " ++ label) e.message
  | .notCreated path e => because ("failed to create " ++ path) e.message
  | .notWritten path e => because ("failed to write " ++ path) e.message

end BodyCheck
