import BodyCheck.Filter.Access

/-!
# Filters

The syntax of filters.  A filter takes a value and gives any number of values.
-/

namespace BodyCheck

namespace Filter

/-- A comparison of two values. -/
inductive Comparison where
  | less
  | lessEqual
  | greater
  | greaterEqual
  | equal
  | unequal
deriving DecidableEq, Repr

/-- The comparison holds for values in the given order. -/
def Comparison.holdsFor (c : Comparison) (o : Ordering) : Bool :=
  match c with
  | .less => o == .lt
  | .lessEqual => o != .gt
  | .greater => o == .gt
  | .greaterEqual => o != .lt
  | .equal => o == .eq
  | .unequal => o != .eq

/-- An operator between two filters. -/
inductive Operator where
  /-- The outputs of the first filter, then those of the second one. -/
  | comma
  /-- The outputs that hold of the first filter, or else those of the second one. -/
  | alternative
  | disjunction
  | conjunction
  | arithmetic (op : Arithmetic)
  | comparison (c : Comparison)
  /-- Every part is set to an output, in turn. -/
  | assign
  /-- Every part is updated by a filter. -/
  | update
  /-- Every part is combined with an output. -/
  | updateArithmetic (op : Arithmetic)
  /-- Every part that does not hold is set to an output. -/
  | updateAlternative
deriving DecidableEq, Repr

/-- How the values of a filter are gone through with a state. -/
inductive FoldKind where
  /-- Only the last state is given. -/
  | reduce
  /-- Every state is given. -/
  | each
deriving DecidableEq, Repr

mutual

/-- A filter. -/
inductive Term where
  /-- The input itself. -/
  | identity
  /-- The input and everything inside it. -/
  | recurse
  | numeral (text : String)
  /-- A text with filters inside it, whose outputs are formatted. -/
  | text (format : Option String) (pieces : List Piece)
  /-- All outputs of a filter as an array. -/
  | array (body : Option Term)
  | object (entries : List (Term × Option Term))
  | negate (body : Term)
  | binary (op : Operator) (left right : Term)
  /-- The outputs of the second filter on those of the first one. -/
  | pipe (left right : Term)
  /-- The outputs of the second filter, with the outputs of the first one as variables. -/
  | bind (source : Term) (pattern : Pattern) (body : Term)
  | label (name : String) (body : Term)
  | leave (name : String)
  | fold (kind : FoldKind) (source : Term) (pattern : Pattern) (arguments : List Term)
  | attempt (body : Term) (handler : Option Term)
  | conditional (branches : List (Term × Term)) (otherwise : Option Term)
  | define (definitions : List Definition) (body : Term)
  | call (name : String) (arguments : List Term)
  | variable (name : String)
  /-- Parts of the outputs of a filter.  Those that need not be there are marked. -/
  | path (source : Term) (parts : List (Selector Term × Bool))

/-- A piece of a text. -/
inductive Piece where
  | literal (s : String)
  | output (body : Term)

/-- What the parts of a value are bound to. -/
inductive Pattern where
  | variable (name : String)
  | array (patterns : List Pattern)
  | object (entries : List (Term × Pattern))

/-- A definition.  A parameter that begins with a dollar sign stands for a value. -/
inductive Definition where
  | mk (name : String) (parameters : List String) (body : Term)

end

/-- The name of a definition. -/
def Definition.name : Definition → String
  | .mk name _ _ => name

/-- The parameters of a definition. -/
def Definition.parameters : Definition → List String
  | .mk _ parameters _ => parameters

/-- The body of a definition. -/
def Definition.body : Definition → Term
  | .mk _ _ body => body

/-- A text without filters inside it. -/
def Term.literal (s : String) : Term := .text none [.literal s]

end Filter

end BodyCheck
