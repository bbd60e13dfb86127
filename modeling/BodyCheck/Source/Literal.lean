import BodyCheck.Json.Printer

/-!
# Literals

A scalar as a literal of the source.  A string stands between quotes as it is.  A whole number
beyond the range of a 32-bit integer has the suffix `L`, and a number that was not written as a
whole one has the suffix `f`; what is stored as a double only because 64 bits are too few for it is
still a whole number.

A scalar is rendered under a declared kind, which may differ from its own.
-/

namespace BodyCheck

/-- Why a value has no literal. -/
inductive LiteralError where
  /-- Values of the declared kind have no literal. -/
  | unsupported (kind : Kind)
  /-- The value is not of the declared kind. -/
  | mismatch (kind : Kind) (value : Json)
deriving DecidableEq, Repr

/-- The wording of an error. -/
def LiteralError.message : LiteralError → String
  | .unsupported kind => kind.word ++ " values have no literal form"
  | .mismatch kind value => "expected a " ++ kind.word ++ " literal, got " ++ value.text

/-- A text between quotes, as it is. -/
def quotedAsIs (text : String) : String := "\"" ++ text ++ "\""

/-- The greatest whole number without a suffix. -/
def greatestPlainInteger : Int := 2147483647

/-- A whole number as a literal. -/
def integerLiteral (n : Int) : String :=
  let text := String.ofList (Json.integerText n)
  if n ≤ greatestPlainInteger then text else text ++ "L"

/-- A double as a literal.  Minus zero and whole values beyond 64 bits are written as whole
numbers. -/
def doubleLiteral (d : Double) : String :=
  let magnitude := decimalText d.wholeMagnitude
  if d.negative then
    if d.isZero then "0"
    else if d.isWhole && Nat.pow 2 63 ≤ d.wholeMagnitude then "-" ++ magnitude
    else String.ofList (d.render .json) ++ "f"
  else if d.isWhole && Nat.pow 2 64 ≤ d.wholeMagnitude then magnitude ++ "L"
  else String.ofList (d.render .json) ++ "f"

/-- A number as a literal. -/
def numberLiteral : Number → String
  | .integer n => integerLiteral n
  | .double d => doubleLiteral d

/-- A value under a declared kind as a literal. -/
def literal (kind : Kind) (value : Json) : Except LiteralError String :=
  match kind, value with
  | .string, .string s => .ok (quotedAsIs s)
  | .number, .number n => .ok (numberLiteral n)
  | .boolean, .bool b => .ok (if b then "true" else "false")
  | .string, _ | .number, _ | .boolean, _ => .error (.mismatch kind value)
  | .null, _ | .object, _ | .array, _ => .error (.unsupported kind)

/-- A value under a declared kind as an item of a list, where null can stand too. -/
def itemLiteral (kind : Kind) (value : Json) : Except LiteralError String :=
  match kind, value with
  | .null, .null => .ok "null"
  | _, _ => literal kind value

example : integerLiteral 2147483647 = "2147483647" := by decide
example : integerLiteral 2147483648 = "2147483648L" := by decide
example : integerLiteral (-2147483649) = "-2147483649" := by decide

end BodyCheck
