import BodyCheck.Json.Basic

/-!
# Checks

A `Check` says something about the node of a response body at a path: that it has a value, that it
is null, that its scalar elements are such and such, or that it has no children.  `Check.toJson`
is the form in which checks are listed.
-/

namespace BodyCheck

/-- A scalar element of an array, with the kind it is said to have. -/
structure Item where
  value : Json
  kind : Kind
deriving DecidableEq, Repr

/-- Something that is said about the node at a path. -/
inductive Check where
  /-- The node is the given scalar of the given kind. -/
  | value (path : String) (value : Json) (kind : Kind)
  /-- The node is null. -/
  | null (path : String)
  /-- The node is an array with these scalar elements, in this order. -/
  | items (path : String) (items : List Item)
  /-- The node is an object or an array without children. -/
  | empty (path : String)
deriving DecidableEq, Repr

/-- The path of the node a check speaks about. -/
def Check.path : Check → String
  | .value path _ _ | .null path | .items path _ | .empty path => path

/-- The check only asks for the absence of children. -/
def Check.isEmpty : Check → Bool
  | .empty _ => true
  | _ => false

/-- The check lists the elements of an array. -/
def Check.isItems : Check → Bool
  | .items _ _ => true
  | _ => false

/-- An element as a JSON object. -/
def Item.toJson (item : Item) : Json :=
  .object [("value", item.value), ("valueType", .string item.kind.title)]

/-- A check as a JSON object. -/
def Check.toJson : Check → Json
  | .value path v kind =>
    .object [("testType", .string "CheckForValue"), ("path", .string path), ("value", v),
      ("valueType", .string kind.title)]
  | .null path => .object [("testType", .string "CheckForNull"), ("path", .string path)]
  | .items path list =>
    .object [("testType", .string "CheckArrayItems"), ("path", .string path),
      ("items", .array (list.map Item.toJson))]
  | .empty path => .object [("testType", .string "CheckForEmpty"), ("path", .string path)]

end BodyCheck
