import BodyCheck.Json.Basic
import BodyCheck.Path

/-!
# Fields

A document as a list of its nodes, without the root.  Each node is a `Field`: the path of its
parent, its own key, its kind and, if it is no container, its value.  `Json.fields` lists them in
preorder, so a container stands before everything inside it, and siblings keep the order they have
in the document.
-/

namespace BodyCheck

/-- A node of a document. -/
structure Field where
  /-- The path of the node around it.  The children of a root have none. -/
  parent : Option String
  /-- Its key; that of an element is its index in brackets. -/
  key : String
  /-- Its kind. -/
  kind : Kind
  /-- Its value, unless it is a container. -/
  value : Option Json
deriving DecidableEq, Repr

/-- The node is an object or an array. -/
def Field.isContainer (f : Field) : Bool := f.kind.isContainer

/-- The node alone, without the nodes inside it. -/
def Field.ofValue (parent : Option String) (key : String) (v : Json) : Field :=
  ⟨parent, key, v.kind, if v.isContainer then none else some v⟩

namespace Json

mutual

/-- The nodes inside a value that lives at a path. -/
def fields (parent : Option String) : Json → List Field
  | .array items => itemFields parent 0 items
  | .object entries => entryFields parent entries
  | _ => []

/-- The nodes of elements, the first of which has the given index. -/
def itemFields (parent : Option String) (index : Nat) : List Json → List Field
  | [] => []
  | v :: rest =>
    Field.ofValue parent (Path.indexKey index) v
      :: v.fields (some (Path.compose parent (Path.indexKey index) true))
      ++ itemFields parent (index + 1) rest

/-- The nodes of entries. -/
def entryFields (parent : Option String) : List (String × Json) → List Field
  | [] => []
  | (key, v) :: rest =>
    Field.ofValue parent key v :: v.fields (some (Path.compose parent key false))
      ++ entryFields parent rest

end

example : (Json.object [("a", .array [.null]), ("b", .bool true)]).fields none =
    [⟨none, "a", .array, none⟩, ⟨some "a", "[0]", .null, some .null⟩,
      ⟨none, "b", .boolean, some (.bool true)⟩] := by decide

end Json

end BodyCheck
