import BodyCheck.Check.Derive
import BodyCheck.Proofs.Nodes

/-!
# Paths in the first pass

The first pass composes the path of a field with the kinds of the containers that it has met so
far.  Keys are not restricted, so several nodes of a document may share a path, and a container
that is met later may take the place of an earlier one in the table.

The paths come out right all the same.  While the fields inside a container are met, the container
keeps its own entry, since their paths are all longer than its own (`Json.length_lt_path`).  So the
table fits each container at the time when its children are met (`Containers.Fits`), and every
field is placed at the path of its node (`Containers.placed_fields`).
-/

namespace BodyCheck

open BodyCheck.Path (Part)

/-! ## Placed fields -/

namespace Containers

/-- Fields with their paths, each one composed with the containers known before it. -/
def placed (known : Containers) : List Field → List (String × Field)
  | [] => []
  | f :: rest => (known.pathOf f, f) :: (known.see f).placed rest

theorem placed_append (known : Containers) (fields more : List Field) :
    known.placed (fields ++ more) = known.placed fields ++ (known.seeAll fields).placed more := by
  induction fields generalizing known with
  | nil => rfl
  | cons f rest ih => rw [List.cons_append, placed, placed, seeAll_cons, ih, List.cons_append]

/-- Placing fields changes none of them. -/
theorem map_snd_placed (known : Containers) (fields : List Field) :
    (known.placed fields).map Prod.snd = fields := by
  induction fields generalizing known with
  | nil => rfl
  | cons f rest ih => rw [placed, List.map_cons, ih]

/-- A field leaves the entries of all paths but its own. -/
theorem kind?_see {known : Containers} {f : Field} {path : String} (h : known.pathOf f ≠ path) :
    (known.see f).kind? path = known.kind? path := by
  unfold see
  split
  · rw [kind?_record, if_neg (Ne.symm h)]
  · rfl

/-- Fields leave the entries of all paths but their own. -/
theorem kind?_seeAll {known : Containers} {fields : List Field} {path : String}
    (h : ∀ x ∈ known.placed fields, x.1 ≠ path) :
    (known.seeAll fields).kind? path = known.kind? path := by
  induction fields generalizing known with
  | nil => rfl
  | cons f rest ih =>
      rw [placed, List.forall_mem_cons] at h
      rw [seeAll_cons, ih h.2, kind?_see h.1]

/-- Fields that are not placed at the path of a parent leave it an array or not. -/
theorem isArray_seeAll {known : Containers} {fields : List Field} {parent : Option String}
    (h : ∀ x ∈ known.placed fields, parent ≠ some x.1) :
    (known.seeAll fields).isArray parent = known.isArray parent := by
  cases parent with
  | none => rfl
  | some path =>
      have other : ∀ x ∈ known.placed fields, x.1 ≠ path := by
        intro x hx same
        exact h x hx (by rw [same])
      rw [isArray, isArray, kind?_seeAll other]

/-- Groups of fields, each of which keeps what is needed of the table, are placed one after the
other. -/
theorem placed_flatMap {α : Type} {I : Containers → Prop} {fields : α → List Field}
    {places : α → List (String × Field)} {groups : List α} {known : Containers} (h : I known)
    (each : ∀ a ∈ groups, ∀ known : Containers, I known →
      known.placed (fields a) = places a ∧ I (known.seeAll (fields a))) :
    known.placed (groups.flatMap fields) = groups.flatMap places := by
  induction groups generalizing known with
  | nil => rfl
  | cons a rest ih =>
      rw [List.forall_mem_cons] at each
      obtain ⟨here, stays⟩ := each.1 known h
      rw [List.flatMap_cons, List.flatMap_cons, placed_append, here, ih stays each.2]

/-! ## Tables that fit -/

/-- With the table, the children of a value at a path come out at their paths. -/
def Fits (known : Containers) (parent : Option String) (v : Json) : Prop :=
  ∀ part w, (part, w) ∈ v.children →
    Path.compose parent part.text (known.isArray parent) =
      Path.compose parent part.text part.isIndex

/-- The children of a root come out at their paths with every table. -/
theorem fits_none (known : Containers) (v : Json) : known.Fits Option.none v :=
  fun _ _ _ => rfl

theorem Fits.congr {known other : Containers} {parent : Option String} {v : Json}
    (fits : known.Fits parent v) (h : other.isArray parent = known.isArray parent) :
    other.Fits parent v := by
  intro part w hc
  rw [h]
  exact fits part w hc

/-- A table that knows whether a value is an array fits it. -/
theorem fits_of_isArray {known : Containers} {parent : Option String} {v : Json}
    (h : known.isArray parent = (v.kind == .array)) : known.Fits parent v := by
  intro part w hc
  rw [h, Json.isIndex_of_mem_children hc]

/-- The table fits a value as soon as its field has been met. -/
theorem fits_see {known : Containers} {parent : Option String} {key path : String} {v : Json}
    (placed_at : known.pathOf (Field.ofValue parent key v) = path) :
    (known.see (Field.ofValue parent key v)).Fits (some path) v := by
  intro part w hc
  have met : (Field.ofValue parent key v).isContainer := Json.isContainer_of_mem_children hc
  refine fits_of_isArray ?_ part w hc
  rw [see, if_pos met, placed_at, isArray, kind?_record, if_pos rfl]
  rfl

/-- One child of a value: the child and the fields inside it are placed at their paths, and the
entry of the value stays. -/
theorem placed_child {known : Containers} {base : Option String} {above : List Part} {v w : Json}
    {part : Part} (fits : known.Fits (Path.along base above) v) (hc : (part, w) ∈ v.children)
    (ih : ∀ {known : Containers}, known.Fits (Path.along base (above ++ [part])) w →
      known.placed (w.fields (Path.along base (above ++ [part]))) =
        (w.nodes (above ++ [part])).map fun n => (n.path base, n.field base)) :
    let chunk := Field.ofValue (Path.along base above) part.text w ::
      w.fields (Path.along base (above ++ [part]))
    known.placed chunk =
        (⟨above, part, w⟩ :: w.nodes (above ++ [part])).map (fun n => (n.path base, n.field base)) ∧
      (known.seeAll chunk).isArray (Path.along base above) =
        known.isArray (Path.along base above) := by
  intro chunk
  have placed_at : known.pathOf (Field.ofValue (Path.along base above) part.text w) =
      Path.compose (Path.along base above) part.text part.isIndex := fits part w hc
  have inside := fits_see placed_at
  rw [← Path.along_concat] at inside
  have eq : known.placed chunk =
      (⟨above, part, w⟩ :: w.nodes (above ++ [part])).map fun n => (n.path base, n.field base) := by
    rw [placed, ih inside, placed_at]
    rfl
  refine ⟨eq, isArray_seeAll fun x hx same => ?_⟩
  rw [eq] at hx
  obtain ⟨n, hn, rfl⟩ := List.mem_map.mp hx
  have inside : n ∈ v.nodes above := Json.mem_nodes_iff.mpr ⟨part, w, hc, List.mem_cons.mp hn⟩
  exact Json.along_ne_path inside same

/-- Every field inside a value is placed at the path of its node. -/
theorem placed_fields {known : Containers} {base : Option String} {above : List Part} {v : Json}
    (fits : known.Fits (Path.along base above) v) :
    known.placed (v.fields (Path.along base above)) =
      (v.nodes above).map fun n => (n.path base, n.field base) := by
  induction v using Json.childInduction generalizing known above with
  | parent v ih =>
      rw [Json.fields_eq, Json.nodes_eq, List.map_flatMap]
      refine placed_flatMap
        (I := fun k => k.isArray (Path.along base above) = known.isArray (Path.along base above))
        rfl fun c hc known' same => ?_
      rw [← Path.along_concat]
      have child := placed_child (fits.congr same) hc (ih c.1 c.2 hc)
      exact ⟨child.1, child.2.trans same⟩

end Containers

/-- Every field of a document is placed at the path of its node. -/
theorem Json.placed_fields_none (v : Json) :
    Containers.none.placed (v.fields none) =
      (v.nodes []).map fun n => (n.path none, n.field none) := by
  have fits : Containers.none.Fits (Path.along none []) v := Containers.none.fits_none v
  exact Containers.placed_fields fits

/-! ## Drafts -/

/-- The drafts of a field at a path. -/
def Field.draftsAt (checkEmpty : Bool) (occupied : List String) (path : String) (f : Field) :
    List Draft :=
  if f.isContainer then
    if checkEmpty && !occupied.contains path then [⟨none, .empty path⟩] else []
  else [⟨f.parent, f.leafCheck path⟩]

theorem draftsFrom_eq (checkEmpty : Bool) (occupied : List String) (known : Containers)
    (fields : List Field) : draftsFrom checkEmpty occupied known fields =
      (known.placed fields).flatMap fun x => x.2.draftsAt checkEmpty occupied x.1 := by
  induction fields generalizing known with
  | nil => rfl
  | cons f rest ih =>
      rw [draftsFrom, ih, Containers.placed, List.flatMap_cons]
      rfl

/-- The drafts of a document: those of its nodes, each one at its own path. -/
theorem drafts_fields (checkEmpty : Bool) (v : Json) :
    drafts checkEmpty (v.fields none) = (v.nodes []).flatMap fun n =>
      (n.field none).draftsAt checkEmpty (parentPaths (v.fields none)) (n.path none) := by
  rw [drafts, draftsFrom_eq, Json.placed_fields_none, List.flatMap_map]

/-! ## The checks of the leaves -/

namespace Json

/-- The check of a leaf at a path. -/
def leafCheck (path : String) : Json → Check
  | .null => .null path
  | v => .value path v v.kind

mutual

/-- The checks of the leaves inside a value, in the order of the document.  The paths grow on the
way down: a key stands behind a dot, except at the root, and an index in brackets. -/
def leafChecks (parent : Option String) : Json → List Check
  | .array items => itemLeafChecks parent 0 items
  | .object entries => entryLeafChecks parent entries
  | _ => []

/-- The checks of the leaves of elements, the first of which has the given index. -/
def itemLeafChecks (parent : Option String) (i : Nat) : List Json → List Check
  | [] => []
  | v :: rest =>
    let path := parent.getD "" ++ "[" ++ decimalText i ++ "]"
    (if v.isContainer then [] else [v.leafCheck path]) ++ v.leafChecks (some path)
      ++ itemLeafChecks parent (i + 1) rest

/-- The checks of the leaves of entries. -/
def entryLeafChecks (parent : Option String) : List (String × Json) → List Check
  | [] => []
  | (key, v) :: rest =>
    let path := match parent with
      | none => key
      | some parent => parent ++ "." ++ key
    (if v.isContainer then [] else [v.leafCheck path]) ++ v.leafChecks (some path)
      ++ entryLeafChecks parent rest

end

theorem itemLeafChecks_eq (parent : Option String) :
    ∀ (items : List Json) (i : Nat), itemLeafChecks parent i items =
      (items.zipIdx i).flatMap fun (v, i) =>
        let path := Path.compose parent (Path.indexKey i) true
        (if v.isContainer then [] else [v.leafCheck path]) ++ v.leafChecks (some path)
  | [], _ => rfl
  | v :: rest, i => by
      rw [itemLeafChecks, itemLeafChecks_eq parent rest (i + 1), ← Path.compose_index,
        List.zipIdx_cons, List.flatMap_cons]

theorem entryLeafChecks_eq (parent : Option String) :
    ∀ entries : List (String × Json), entryLeafChecks parent entries =
      entries.flatMap fun (key, v) =>
        let path := Path.compose parent key false
        (if v.isContainer then [] else [v.leafCheck path]) ++ v.leafChecks (some path)
  | [] => rfl
  | (key, v) :: rest => by
      cases parent with
      | none =>
          rw [entryLeafChecks, entryLeafChecks_eq none rest, List.flatMap_cons]
          rfl
      | some path =>
          rw [entryLeafChecks, entryLeafChecks_eq (some path) rest, List.flatMap_cons]
          rfl

/-- The checks of the leaves inside a value: of each child, and then inside it. -/
theorem leafChecks_eq (parent : Option String) (v : Json) :
    v.leafChecks parent = v.children.flatMap fun c =>
      let path := Path.compose parent c.1.text c.1.isIndex
      (if c.2.isContainer then [] else [c.2.leafCheck path]) ++ c.2.leafChecks (some path) := by
  cases v with
  | array items =>
      rw [leafChecks, itemLeafChecks_eq, children, List.flatMap_map]
      rfl
  | object entries =>
      rw [leafChecks, entryLeafChecks_eq, children, List.flatMap_map]
      rfl
  | null | bool b | number n | string s => rfl

end Json

/-- The check of a node, if it is a leaf. -/
def Node.leafChecks (base : Option String) (n : Node) : List Check :=
  if n.value.isContainer then [] else [n.value.leafCheck (n.path base)]

theorem Json.leafChecks_along (base : Option String) (v : Json) (above : List Part) :
    v.leafChecks (Path.along base above) = (v.nodes above).flatMap (Node.leafChecks base) := by
  induction v using Json.childInduction generalizing above with
  | parent v ih =>
      rw [leafChecks_eq, nodes_eq, List.flatMap_assoc]
      refine List.flatMap_congr fun c hc => ?_
      rw [List.flatMap_cons, ← ih c.1 c.2 hc, Path.along_concat]
      rfl

/-- The check of a leaf that was taken for a field. -/
theorem Field.leafCheck_ofValue (parent : Option String) (key path : String) {v : Json}
    (scalar : v.isContainer = false) :
    (Field.ofValue parent key v).leafCheck path = v.leafCheck path := by
  cases v with
  | array items => cases scalar
  | object entries => cases scalar
  | null | bool b | number n | string s => rfl

/-- A leaf carries its value. -/
theorem Node.leafValue_field (base : Option String) {n : Node}
    (scalar : n.value.isContainer = false) : (n.field base).leafValue = n.value := by
  simp [Field.leafValue, Node.field, Field.ofValue, scalar]

/-- A node has the draft of its own check if it is a leaf. -/
theorem Node.draftsAt_of_isScalar {n : Node} (scalar : n.value.isContainer = false)
    (checkEmpty : Bool) (occupied : List String) (base : Option String) :
    (n.field base).draftsAt checkEmpty occupied (n.path base) =
      [⟨n.parent base, n.value.leafCheck (n.path base)⟩] := by
  have leaf : (n.field base).isContainer = false := scalar
  rw [Field.draftsAt, leaf, Node.field, Field.leafCheck_ofValue _ _ _ scalar]
  rfl

/-- A node has the draft of its emptiness if it is a container at a path that is to be checked and
is nobody's parent. -/
theorem Node.draftsAt_of_isContainer {n : Node} (container : n.value.isContainer)
    (checkEmpty : Bool) (occupied : List String) (base : Option String) :
    (n.field base).draftsAt checkEmpty occupied (n.path base) =
      if checkEmpty && !occupied.contains (n.path base) then [⟨none, .empty (n.path base)⟩]
      else [] := by
  have node : (n.field base).isContainer := container
  rw [Field.draftsAt, if_pos node]

/-- Without options a document has the checks of its leaves and no others, whatever its keys. -/
theorem Check.ofJson_eq_leafChecks (v : Json) :
    Check.ofJson ⟨false, false⟩ v = v.leafChecks none := by
  have leaves := Json.leafChecks_along none v []
  rw [Path.along_nil] at leaves
  show (drafts false (v.fields none)).map (·.check) = _
  rw [leaves, drafts_fields, List.map_flatMap]
  refine List.flatMap_congr fun n _ => ?_
  cases scalar : n.value.isContainer with
  | true => rw [Node.draftsAt_of_isContainer scalar, Node.leafChecks, if_pos scalar]; rfl
  | false => rw [Node.draftsAt_of_isScalar scalar, Node.leafChecks, scalar]; rfl

end BodyCheck
