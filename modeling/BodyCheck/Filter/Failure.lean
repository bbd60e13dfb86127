import BodyCheck.Filter.Value

/-!
# Failures of filters

What can go wrong while a filter runs.  A filter can catch a failure and go on with the value it
stands for (`Failure.value`): the value that was raised, or a message.
-/

namespace BodyCheck

namespace Filter

/-- The operations on two numbers, and what they mean for other values. -/
inductive Arithmetic where
  | add
  | subtract
  | multiply
  | divide
  | remainder
deriving DecidableEq, Repr

/-- The sign of an operation. -/
def Arithmetic.sign : Arithmetic → String
  | .add => "+"
  | .subtract => "-"
  | .multiply => "*"
  | .divide => "/"
  | .remainder => "%"

/-- What a value was used as, although it is none. -/
inductive Role where
  | integer
  | number
  | string
  | array
  | iterable
  | range
deriving DecidableEq, Repr

/-- The words for a role. -/
def Role.describe : Role → String
  | .integer => "integer"
  | .number => "number"
  | .string => "string"
  | .array => "array"
  | .iterable => "iterable (array or object)"
  | .range => "rangeable (array or string)"

/-- Why a filter fails on a value. -/
inductive Failure where
  /-- The filter raised a value. -/
  | raised (v : Value)
  /-- Two values cannot be combined. -/
  | arithmetic (left : Value) (op : Arithmetic) (right : Value)
  /-- A value has no part of that name or number. -/
  | indexing (v : Value) (index : Value)
  /-- A value is not what it was used as. -/
  | role (v : Value) (role : Role)
  /-- An index lies outside of an array. -/
  | outOfBounds (index : Value)
  /-- A filter that is to be updated does not lead to a part of its input. -/
  | noPath (input : Value)
  /-- A value has no length. -/
  | noLength (v : Value)
  /-- A text cannot be read. -/
  | unreadable (text what : String)
deriving Repr

/-- The value a failure stands for. -/
def Failure.value : Failure → Value
  | .raised v => v
  | .arithmetic l op r => .string ("cannot calculate " ++ l.json ++ " " ++ op.sign ++ " " ++ r.json)
  | .indexing v i => .string ("cannot index " ++ v.json ++ " with " ++ i.json)
  | .role v r => .string ("cannot use " ++ v.json ++ " as " ++ r.describe)
  | .outOfBounds i => .string ("index " ++ i.json ++ " out of bounds")
  | .noPath v => .string ("invalid path expression with input " ++ v.json)
  | .noLength v => .string (v.json ++ " has no length")
  | .unreadable text what => .string ("cannot parse " ++ text ++ " as " ++ what)

/-- Why a filter stops. -/
inductive Stop where
  /-- It failed. -/
  | failed (f : Failure)
  /-- It left the label with the given number. -/
  | left (label : Nat)
  /-- It was given up, since it nested too deeply. -/
  | exhausted
deriving Repr

end Filter

end BodyCheck
