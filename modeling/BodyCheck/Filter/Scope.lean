import BodyCheck.Filter.Term

/-!
# Names of filters

Before a filter runs, every name in it has to stand for something: a filter with as many parameters
as there are arguments, a variable that is bound around it, or a label around it.  A definition is
known in its own body and behind it.
-/

namespace BodyCheck

namespace Filter

/-- The names that are known somewhere. -/
structure Scope where
  /-- Filters with the number of their parameters. -/
  filters : List (String × Nat) := []
  /-- Variables. -/
  bound : List String := []
  labels : List String := []

namespace Scope

/-- A name stands for a value. -/
def isVariable (name : String) : Bool := name.startsWith "$"

/-- A scope with a definition. -/
def define (s : Scope) (d : Definition) : Scope :=
  { s with filters := (d.name, d.parameters.length) :: s.filters }

/-- A scope with a parameter. -/
def addParameter (s : Scope) (name : String) : Scope :=
  if isVariable name then { s with bound := name :: s.bound }
  else { s with filters := (name, 0) :: s.filters }

/-- A scope with variables. -/
def addVariables (s : Scope) (names : List String) : Scope :=
  { s with bound := names ++ s.bound }

/-- A scope with a label. -/
def addLabel (s : Scope) (name : String) : Scope := { s with labels := name :: s.labels }

end Scope

mutual

/-- The variables of a pattern. -/
def Pattern.variables : Pattern → List String
  | .variable x => [x]
  | .array ps => patternVariables ps
  | .object es => entryVariables es

/-- The variables of patterns. -/
def patternVariables : List Pattern → List String
  | [] => []
  | p :: rest => p.variables ++ patternVariables rest

/-- The variables of the entries of a pattern. -/
def entryVariables : List (Term × Pattern) → List String
  | [] => []
  | (_, p) :: rest => p.variables ++ entryVariables rest

end

mutual

/-- Every name in a filter is known. -/
def Term.isKnown (s : Scope) : Term → Bool
  | .identity | .recurse | .numeral _ => true
  | .text format pieces =>
    (match format with
      | some f => s.filters.contains (f, 0)
      | none => true) && piecesKnown s pieces
  | .array body => optionKnown s body
  | .object entries => entriesKnown s entries
  | .negate body => body.isKnown s
  | .binary _ l r => l.isKnown s && r.isKnown s
  | .pipe l r => l.isKnown s && r.isKnown s
  | .bind source p body =>
    source.isKnown s && p.isKnown s && body.isKnown (s.addVariables p.variables)
  | .label name body => body.isKnown (s.addLabel name)
  | .leave name => s.labels.contains name
  | .fold kind source p arguments =>
    source.isKnown s && p.isKnown s
      && (arguments.length == 2 || (kind == .each && arguments.length == 3))
      && foldKnown s (s.addVariables p.variables) arguments
  | .attempt body handler => body.isKnown s && optionKnown s handler
  | .conditional branches otherwise => branchesKnown s branches && optionKnown s otherwise
  | .define ds body => definitionsKnown s ds && body.isKnown (ds.foldl Scope.define s)
  | .call name arguments =>
    s.filters.contains (name, arguments.length) && termsKnown s arguments
  | .variable name => s.bound.contains name
  | .path source parts => source.isKnown s && partsKnown s parts

/-- Every name in an optional filter is known. -/
def optionKnown (s : Scope) : Option Term → Bool
  | none => true
  | some t => t.isKnown s

/-- Every name in filters is known. -/
def termsKnown (s : Scope) : List Term → Bool
  | [] => true
  | t :: rest => t.isKnown s && termsKnown s rest

/-- Every name in the arguments of a fold is known.  Only the first one is outside of the scope of
the variables. -/
def foldKnown (outer inner : Scope) : List Term → Bool
  | [] => true
  | t :: rest => t.isKnown outer && termsKnown inner rest

/-- Every name in the pieces of a text is known. -/
def piecesKnown (s : Scope) : List Piece → Bool
  | [] => true
  | .literal _ :: rest => piecesKnown s rest
  | .output t :: rest => t.isKnown s && piecesKnown s rest

/-- Every name in the entries of an object is known. -/
def entriesKnown (s : Scope) : List (Term × Option Term) → Bool
  | [] => true
  | (k, none) :: rest => k.isKnown s && entriesKnown s rest
  | (k, some v) :: rest => k.isKnown s && v.isKnown s && entriesKnown s rest

/-- Every name in the branches of a conditional is known. -/
def branchesKnown (s : Scope) : List (Term × Term) → Bool
  | [] => true
  | (c, t) :: rest => c.isKnown s && t.isKnown s && branchesKnown s rest

/-- Every name in the parts of a path is known. -/
def partsKnown (s : Scope) : List (Selector Term × Bool) → Bool
  | [] => true
  | (.all, _) :: rest => partsKnown s rest
  | (.index i, _) :: rest => i.isKnown s && partsKnown s rest
  | (.range none none, _) :: rest => partsKnown s rest
  | (.range (some i) none, _) :: rest => i.isKnown s && partsKnown s rest
  | (.range none (some j), _) :: rest => j.isKnown s && partsKnown s rest
  | (.range (some i) (some j), _) :: rest => i.isKnown s && j.isKnown s && partsKnown s rest

/-- Every name in definitions is known. -/
def definitionsKnown (s : Scope) : List Definition → Bool
  | [] => true
  | .mk name parameters body :: rest =>
    let s := { s with filters := (name, parameters.length) :: s.filters }
    body.isKnown (parameters.foldl Scope.addParameter s) && definitionsKnown s rest

/-- Every name in a pattern is known. -/
def Pattern.isKnown (s : Scope) : Pattern → Bool
  | .variable _ => true
  | .array ps => patternsKnown s ps
  | .object es => patternEntriesKnown s es

/-- Every name in patterns is known. -/
def patternsKnown (s : Scope) : List Pattern → Bool
  | [] => true
  | p :: rest => p.isKnown s && patternsKnown s rest

/-- Every name in the entries of a pattern is known. -/
def patternEntriesKnown (s : Scope) : List (Term × Pattern) → Bool
  | [] => true
  | (k, p) :: rest => k.isKnown s && p.isKnown s && patternEntriesKnown s rest

end

end Filter

end BodyCheck
