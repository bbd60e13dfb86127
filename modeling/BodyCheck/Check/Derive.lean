import BodyCheck.Check
import BodyCheck.Check.Containers

/-!
# Checks from fields

`Check.ofFields` turns fields into checks, in two passes.  The first pass goes through the fields in
order and drafts a check of its own for every leaf, and for every container that is nobody's parent
if such containers are to be checked.  The path of a field is composed with the containers known
before it.

The second pass takes place if arrays are to be simplified.  The checks of the leaves whose parent
is the path of an array are dropped, and one check for each such path takes their place behind all
others, in the order of the arrays.  The paths of the arrays are composed with all containers known.
-/

namespace BodyCheck

/-- Which checks are made of a document. -/
structure CheckOptions where
  /-- The scalar elements of an array are checked together. -/
  simplifyArrays : Bool := false
  /-- Containers without children are checked. -/
  checkEmptyContainers : Bool := false
deriving DecidableEq, Repr, Inhabited

/-! ## The first pass -/

/-- A check, with the parent of the leaf it was made for. -/
structure Draft where
  /-- The parent of the leaf, if the check was made for a leaf that has one. -/
  leafParent : Option String
  /-- The check. -/
  check : Check
deriving DecidableEq, Repr

/-- The value of a leaf; one that was given none counts as null. -/
def Field.leafValue (f : Field) : Json := f.value.getD .null

/-- The check of a leaf at a path. -/
def Field.leafCheck (f : Field) (path : String) : Check :=
  match f.kind with
  | .null => .null path
  | kind => .value path f.leafValue kind

/-- The paths that some field has as its parent. -/
def parentPaths (fields : List Field) : List String := fields.filterMap (·.parent)

/-- The drafts of one field.  Containers are checked unless their path is among those occupied. -/
def Field.drafts (checkEmpty : Bool) (occupied : List String) (known : Containers) (f : Field) :
    List Draft :=
  let path := known.pathOf f
  if f.isContainer then
    if checkEmpty && !occupied.contains path then [⟨none, .empty path⟩] else []
  else [⟨f.parent, f.leafCheck path⟩]

/-- The drafts of fields, one after the other. -/
def draftsFrom (checkEmpty : Bool) (occupied : List String) (known : Containers) :
    List Field → List Draft
  | [] => []
  | f :: rest =>
    f.drafts checkEmpty occupied known ++ draftsFrom checkEmpty occupied (known.see f) rest

/-- The drafts of all fields. -/
def drafts (checkEmpty : Bool) (fields : List Field) : List Draft :=
  draftsFrom checkEmpty (parentPaths fields) .none fields

/-! ## The second pass -/

/-- The paths of the arrays, each one at its first place. -/
def arrayPaths (fields : List Field) : List String :=
  ((fields.filter (·.kind == .array)).map (Containers.none.seeAll fields).pathOf).eraseDups

/-- The leaf is an element at a parent path, so it is one of the items there. -/
def Field.itemAt (path : String) (f : Field) : Option Item :=
  if !f.isContainer && f.parent == some path then some ⟨f.leafValue, f.kind⟩ else none

/-- The items at a path. -/
def itemsAt (path : String) (fields : List Field) : List Item :=
  fields.filterMap (·.itemAt path)

/-- The leaf of the draft lies at one of the paths. -/
def Draft.liesAt (paths : List String) (d : Draft) : Bool :=
  match d.leafParent with
  | none => false
  | some parent => paths.contains parent

/-- One check for the items at each path that has some. -/
def aggregates (paths : List String) (fields : List Field) : List Check :=
  paths.filterMap fun path =>
    match itemsAt path fields with
    | [] => none
    | items => some (.items path items)

/-! ## The whole -/

/-- The checks of fields. -/
def Check.ofFields (options : CheckOptions) (fields : List Field) : List Check :=
  let drafts := drafts options.checkEmptyContainers fields
  if options.simplifyArrays then
    let paths := arrayPaths fields
    (drafts.filter (!·.liesAt paths)).map (·.check) ++ aggregates paths fields
  else drafts.map (·.check)

/-- The checks of a document. -/
def Check.ofJson (options : CheckOptions) (v : Json) : List Check :=
  Check.ofFields options (v.fields none)

example : Check.ofJson ⟨true, true⟩ (.object [("a", .array [.null, .bool true]), ("b", .array [])])
    = [.empty "b", .items "a" [⟨.null, .null⟩, ⟨.bool true, .boolean⟩]] := by decide

end BodyCheck
