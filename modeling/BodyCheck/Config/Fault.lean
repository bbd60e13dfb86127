import BodyCheck.Json.Cursor
import BodyCheck.Json.Printer
import BodyCheck.Options
import BodyCheck.Text.Quote

/-!
# Faults in configurations

A configuration can be malformed as JSON, or well formed and still not say what it should.  A fault
of the second kind is often noticed only after the value has been read.  It is then placed where
reading stands when the innermost record around it has been closed, as far as it can be closed; one
outside of any record stays without a place (`Config.settle`).
-/

namespace BodyCheck

namespace Config

/-! ## Errors -/

/-- What stands where something else was expected. -/
inductive Found where
  | null
  | boolean (b : Bool)
  | number (n : Number)
  | string (s : String)
  | sequence
  | map
deriving DecidableEq, Repr

/-- The words for what was found. -/
def Found.describe : Found → String
  | .null => "null"
  | .boolean b => "boolean `" ++ (if b then "true" else "false") ++ "`"
  | .number (.integer n) => "integer `" ++ String.ofList (Json.integerText n) ++ "`"
  | .number (.double d) => "floating point `" ++ String.ofList (d.render .json) ++ "`"
  | .string s => "string " ++ Text.quote s
  | .sequence => "sequence"
  | .map => "map"

/-- What can be expected. -/
inductive Expected where
  | boolean
  /-- A whole number below `2 ^ 16`. -/
  | word16
  | unit
  | variantName
  /-- The fields of a record. -/
  | record (name : String)
deriving DecidableEq, Repr

/-- The words for what was expected. -/
def Expected.describe : Expected → String
  | .boolean => "a boolean"
  | .word16 => "u16"
  | .unit => "unit"
  | .variantName => "variant identifier"
  | .record name => "struct " ++ name

/-- Why a configuration cannot be read. -/
inductive Error where
  /-- The text is not JSON. -/
  | malformed (e : SyntaxError)
  /-- A value of another type was expected. -/
  | wrongType (found : Found) (expected : Expected)
  /-- A whole number does not fit. -/
  | wrongValue (n : Int) (expected : Expected)
  /-- There is no such method. -/
  | unknownMethod (name : String)
  /-- A field is given twice. -/
  | duplicateField (name : String)
  /-- A value is no argument for the source. -/
  | noArg
  /-- A value is no list of pairs. -/
  | noPairs
deriving DecidableEq, Repr

/-- A word between backquotes. -/
def backquoted (word : String) : String := "`" ++ word ++ "`"

/-- The wording of an error. -/
def Error.message : Error → String
  | .malformed e => e.message
  | .wrongType found expected =>
    "invalid type: " ++ found.describe ++ ", expected " ++ expected.describe
  | .wrongValue n expected =>
    "invalid value: " ++ (Found.number (.integer n)).describe ++ ", expected " ++ expected.describe
  | .unknownMethod name =>
    "unknown variant " ++ backquoted name ++ ", expected one of "
      ++ ", ".intercalate (Method.all.map fun m => backquoted m.word)
  | .duplicateField name => "duplicate field " ++ backquoted name
  | .noArg => "data did not match any variant of untagged enum ArgRepr"
  | .noPairs => "data did not match any variant of untagged enum PairsRepr"

/-! ## Faults -/

/-- Where a fault lies. -/
inductive Spot where
  /-- After so many bytes. -/
  | placed (index : Nat)
  /-- Nowhere yet; reading stands here. -/
  | pending (c : Cursor)
deriving DecidableEq, Repr

/-- An error, where it lies in the text, and the trail of the value it arose in. -/
structure Fault where
  error : Error
  spot : Spot
  trail : Trail := []
deriving DecidableEq, Repr

/-- A reader of a part of a configuration. -/
abbrev Reader (α : Type) := Cursor → Except Fault (α × Cursor)

/-- The error, with its place if it has one. -/
def Fault.errorText (text : List Char) (f : Fault) : String :=
  match f.spot with
  | .placed index => (Place.ofIndex text index).locate f.error.message
  | .pending _ => f.error.message

/-- The message for a fault: the trail, then the error. -/
def Fault.message (text : List Char) (f : Fault) : String :=
  "at JSON path " ++ f.trail.render ++ " → " ++ f.errorText text

/-- The outcome of a reader of JSON as one of a reader of configurations. -/
def json {α : Type} : Except BodyCheck.Fault α → Except Fault α
  | .ok a => .ok a
  | .error f => .error ⟨.malformed f.error, .placed f.index, f.trail⟩

/-- An error after the bytes already read. -/
def failHere {α : Type} (c : Cursor) (e : Error) : Except Fault α :=
  .error ⟨e, .placed c.offset, []⟩

/-- An error that has no place yet. -/
def failPending {α : Type} (c : Cursor) (e : Error) : Except Fault α := .error ⟨e, .pending c, []⟩

/-- Moves a fault one step down the trail. -/
def under {α : Type} (step : Step) : Except Fault α → Except Fault α
  | .ok a => .ok a
  | .error f => .error { f with trail := step :: f.trail }

/-- Places a fault that has no place yet where reading stands after something has been closed. -/
def settle {α : Type} (close : Cursor → Cursor) : Except Fault α → Except Fault α
  | .ok a => .ok a
  | .error f =>
    match f.spot with
    | .placed _ => .error f
    | .pending c => .error { f with spot := .placed (close c).offset }

end Config

end BodyCheck
