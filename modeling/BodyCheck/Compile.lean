import BodyCheck.Json.Reader
import BodyCheck.Source.Chain

/-!
# Tests from documents

A document whose root is an object or an array becomes a list of checks and, with them, a test.
-/

namespace BodyCheck

/-- Why a document does not become a test. -/
inductive CompileError where
  /-- The text is no document. -/
  | malformed (message : String)
  /-- The root is a scalar. -/
  | unsupportedRoot (found : Kind)
  /-- A check has no literal. -/
  | literal (e : LiteralError)
deriving DecidableEq, Repr

/-- The wording of an error. -/
def CompileError.message : CompileError → String
  | .malformed message => "invalid JSON: " ++ message
  | .unsupportedRoot found =>
    "only objects and arrays are supported as the top-level value, found " ++ found.word
  | .literal e => e.message

/-- The checks of a document. -/
def checksOf (options : CheckOptions) (v : Json) : Except CompileError (List Check) :=
  if v.isContainer then .ok (Check.ofJson options v) else .error (.unsupportedRoot v.kind)

/-- The test for a document. -/
def compileValue (options : Options) (v : Json) : Except CompileError String := do
  let checks ← checksOf options.checks v
  (testSource options.source checks).mapError .literal

/-- The test for the text of a document. -/
def compile (options : Options) (text : String) : Except CompileError String := do
  let v ← (Json.parse text).mapError .malformed
  compileValue options v

end BodyCheck
