import BodyCheck.Number.Digits

/-!
# Paths

A path names a node of a document.  A key of an object stands behind a dot, unless it is the first
part of the path, and an element of an array behind the path of the array without one, since its
key carries brackets.  So `user.tags[2]` is the third element of `tags` in `user`.
-/

namespace BodyCheck

namespace Path

/-- The path of a child, from the path of its parent, its own key, and whether the parent is an
array.  Without a parent it is the key. -/
def compose (parent : Option String) (key : String) (parentIsArray : Bool) : String :=
  match parent with
  | none => key
  | some parent => if parentIsArray then parent ++ key else parent ++ "." ++ key

/-- The key of an element of an array. -/
def indexKey (index : Nat) : String := "[" ++ decimalText index ++ "]"

@[simp] theorem compose_none (key : String) (b : Bool) : compose none key b = key := rfl

@[simp] theorem compose_array (parent key : String) :
    compose (some parent) key true = parent ++ key := rfl

@[simp] theorem compose_object (parent key : String) :
    compose (some parent) key false = parent ++ "." ++ key := rfl

example : compose (some (compose (some "user") "tags" false)) (indexKey 2) true
    = "user.tags[2]" := by
  decide

end Path

end BodyCheck
