import BodyCheck.Filter.Run
import BodyCheck.Json.Reader

/-!
# Selecting with a filter

A filter selects a part of a document if it has exactly one output.  Every output is written down
and read again as a document, so what is selected is a document whatever the filter computed.
-/

namespace BodyCheck

namespace Filter

/-- Why a filter selects nothing. -/
inductive SelectError where
  /-- The text is no filter. -/
  | malformed
  /-- A name in the filter stands for nothing. -/
  | unknownName
  /-- The filter fails on the document. -/
  | failed
  /-- The text of an output is no document. -/
  | noDocument (message : String)
  /-- The filter has no output. -/
  | noOutput (filter : String)
  /-- The filter has several outputs. -/
  | severalOutputs (filter : String) (count : Nat)
deriving DecidableEq, Repr

/-- The beginning of a message about a filter. -/
def SelectError.subject (filter : String) : String := "jq filter `" ++ filter ++ "` "

/-- The wording of an error. -/
def SelectError.message : SelectError → String
  | .malformed => "parse error"
  | .unknownName => "undefined"
  | .failed => "jq runtime error"
  | .noDocument message => "jq filter produced a value that is not valid JSON: " ++ message
  | .noOutput filter => subject filter ++ "produced no output"
  | .severalOutputs filter count =>
    subject filter ++ "produced " ++ decimalText count ++ " outputs, expected one"

/-- The filter that a text stands for, if every name in it is known. -/
def Term.resolve (filter : String) : Except SelectError Term :=
  match Term.parse filter with
  | none => .error .malformed
  | some t => if t.isKnown Scope.library then .ok t else .error .unknownName

/-- The documents that outputs stand for.  The first output without one decides. -/
def Outputs.documents : Outputs Value → Except SelectError (List Json)
  | .done => .ok []
  | .next (.error _) _ => .error .failed
  | .next (.ok v) rest => do
    let first ← (Json.parse v.json).mapError .noDocument
    return first :: (← documents (rest ()))

/-- The only document of a list. -/
def single (filter : String) : List Json → Except SelectError Json
  | [v] => .ok v
  | [] => .error (.noOutput filter)
  | vs => .error (.severalOutputs filter vs.length)

/-- The part of a document that a filter selects. -/
def select (around : Surroundings) (filter : String) (v : Json) : Except SelectError Json := do
  let t ← Term.resolve filter
  single filter (← (t.outputs around (.ofJson v)).documents)

end Filter

end BodyCheck
