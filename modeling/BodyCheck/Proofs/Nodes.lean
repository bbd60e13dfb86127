import BodyCheck.Field
import BodyCheck.Proofs.Paths
import Mathlib.Data.List.Nodup

/-!
# The nodes of a document

`Json.nodes` lists the nodes of a document in preorder, each with its address.

* Every recursion through a document runs over `Json.children`, and `Json.childInduction` is the
  induction that goes with it.
* The fields of a document are its nodes without their addresses (`Json.fields_along`).
* The path of a node is longer than that of any node around it (`Json.length_lt_path`).
* The nodes whose parent lies at a path are the children of the containers at that path, in order
  (`Json.filter_parent_nodes`).  This holds whatever the keys are, also if several nodes share a
  path.
-/

namespace BodyCheck

open BodyCheck.Path (Part)

namespace Json

/-! ## Children -/

/-- The children of a value, in order. -/
def children : Json → List (Part × Json)
  | .array items => items.zipIdx.map fun (v, i) => (.index i, v)
  | .object entries => entries.map fun (key, v) => (.key key, v)
  | _ => []

/-- The children of an array stand at their indices and those of an object under their keys; no
other value has children. -/
theorem mem_children_iff {v w : Json} {part : Part} :
    (part, w) ∈ v.children ↔
      (∃ items i, v = .array items ∧ part = .index i ∧ items[i]? = some w) ∨
        (∃ entries name, v = .object entries ∧ part = .key name ∧ (name, w) ∈ entries) := by
  constructor
  · intro h
    cases v with
    | array items =>
        obtain ⟨⟨u, i⟩, hu, he⟩ := List.mem_map.mp h
        cases he
        exact .inl ⟨items, i, rfl, rfl, List.mk_mem_zipIdx_iff_getElem?.mp hu⟩
    | object entries =>
        obtain ⟨⟨name, u⟩, hu, he⟩ := List.mem_map.mp h
        cases he
        exact .inr ⟨entries, name, rfl, rfl, hu⟩
    | null | bool b | number n | string s => cases h
  · rintro (⟨items, i, rfl, rfl, hw⟩ | ⟨entries, name, rfl, rfl, hw⟩)
    · exact List.mem_map.mpr ⟨(w, i), List.mk_mem_zipIdx_iff_getElem?.mpr hw, rfl⟩
    · exact List.mem_map.mpr ⟨(name, w), hw, rfl⟩

theorem sizeOf_lt_of_mem_children {v w : Json} {part : Part} (h : (part, w) ∈ v.children) :
    sizeOf w < sizeOf v := by
  rcases mem_children_iff.mp h with ⟨items, i, rfl, rfl, hw⟩ | ⟨entries, name, rfl, rfl, hw⟩
  · have := List.sizeOf_lt_of_mem (List.mem_of_getElem? hw)
    simp only [Json.array.sizeOf_spec]
    omega
  · have := List.sizeOf_lt_of_mem hw
    simp only [Prod.mk.sizeOf_spec, Json.object.sizeOf_spec] at this ⊢
    omega

/-- What passes from the children of every value to the value holds of all values. -/
@[elab_as_elim]
theorem childInduction {motive : Json → Prop}
    (parent : ∀ v, (∀ part w, (part, w) ∈ v.children → motive w) → motive v) (v : Json) :
    motive v :=
  parent v fun _ w _ => childInduction parent w
termination_by sizeOf v
decreasing_by exact sizeOf_lt_of_mem_children ‹_›

/-- Only containers have children. -/
theorem isContainer_of_mem_children {v w : Json} {part : Part} (h : (part, w) ∈ v.children) :
    v.isContainer := by
  rcases mem_children_iff.mp h with ⟨items, i, rfl, -, -⟩ | ⟨entries, name, rfl, -, -⟩
  · rfl
  · rfl

theorem children_eq_nil_of_isScalar {v : Json} (scalar : v.isContainer = false) :
    v.children = [] := by
  rw [List.eq_nil_iff_forall_not_mem]
  rintro ⟨part, w⟩ h
  rw [isContainer_of_mem_children h] at scalar
  cases scalar

/-- The children of an array are those with an index. -/
theorem isIndex_of_mem_children {v w : Json} {part : Part} (h : (part, w) ∈ v.children) :
    part.isIndex = (v.kind == .array) := by
  rcases mem_children_iff.mp h with ⟨items, i, rfl, rfl, -⟩ | ⟨entries, name, rfl, rfl, -⟩
  · rfl
  · rfl

/-! ## Fields by children -/

theorem itemFields_eq (parent : Option String) :
    ∀ (items : List Json) (i : Nat), itemFields parent i items =
      (items.zipIdx i).flatMap fun (v, i) => Field.ofValue parent (Path.indexKey i) v ::
        v.fields (some (Path.compose parent (Path.indexKey i) true))
  | [], _ => rfl
  | v :: rest, i => by
      rw [itemFields, itemFields_eq parent rest (i + 1), List.zipIdx_cons, List.flatMap_cons]

theorem entryFields_eq (parent : Option String) :
    ∀ entries : List (String × Json), entryFields parent entries =
      entries.flatMap fun (key, v) => Field.ofValue parent key v ::
        v.fields (some (Path.compose parent key false))
  | [] => rfl
  | (key, v) :: rest => by
      rw [entryFields, entryFields_eq parent rest, List.flatMap_cons]

/-- The fields inside a value: each child, followed by the fields inside it. -/
theorem fields_eq (parent : Option String) (v : Json) :
    v.fields parent = v.children.flatMap fun c => Field.ofValue parent c.1.text c.2 ::
      c.2.fields (some (Path.compose parent c.1.text c.1.isIndex)) := by
  cases v with
  | array items =>
      rw [fields, itemFields_eq, children, List.flatMap_map]
      rfl
  | object entries =>
      rw [fields, entryFields_eq, children, List.flatMap_map]
      rfl
  | null | bool b | number n | string s => rfl

end Json

/-! ## Nodes -/

/-- A node of a document other than the root. -/
structure Node where
  /-- The address of its parent. -/
  above : List Part
  /-- What leads from its parent to it. -/
  last : Part
  /-- Its value. -/
  value : Json
deriving DecidableEq, Repr

/-- The address of a node. -/
def Node.address (n : Node) : List Part := n.above ++ [n.last]

/-- The path of the parent of a node, if the document lies at a path. -/
def Node.parent (base : Option String) (n : Node) : Option String := Path.along base n.above

/-- The path of a node, if the document lies at a path. -/
def Node.path (base : Option String) (n : Node) : String :=
  Path.compose (n.parent base) n.last.text n.last.isIndex

/-- The field of a node, if the document lies at a path. -/
def Node.field (base : Option String) (n : Node) : Field :=
  Field.ofValue (n.parent base) n.last.text n.value

theorem Node.along_address (base : Option String) (n : Node) :
    Path.along base n.address = some (n.path base) :=
  Path.along_concat base n.above n.last

/-- The children of a value at an address, as nodes. -/
def Json.childNodes (above : List Part) (v : Json) : List Node :=
  v.children.map fun c => ⟨above, c.1, c.2⟩

/-- The children of a node. -/
def Node.childNodes (n : Node) : List Node := n.value.childNodes n.address

namespace Json

mutual

/-- The nodes inside a value at an address, in preorder. -/
def nodes (above : List Part) : Json → List Node
  | .array items => itemNodes above 0 items
  | .object entries => entryNodes above entries
  | _ => []

/-- The nodes of elements, the first of which has the given index. -/
def itemNodes (above : List Part) (i : Nat) : List Json → List Node
  | [] => []
  | v :: rest =>
    ⟨above, .index i, v⟩ :: v.nodes (above ++ [.index i]) ++ itemNodes above (i + 1) rest

/-- The nodes of entries. -/
def entryNodes (above : List Part) : List (String × Json) → List Node
  | [] => []
  | (key, v) :: rest =>
    ⟨above, .key key, v⟩ :: v.nodes (above ++ [.key key]) ++ entryNodes above rest

end

theorem itemNodes_eq (above : List Part) :
    ∀ (items : List Json) (i : Nat), itemNodes above i items =
      (items.zipIdx i).flatMap fun (v, i) =>
        ⟨above, .index i, v⟩ :: v.nodes (above ++ [.index i])
  | [], _ => rfl
  | v :: rest, i => by
      rw [itemNodes, itemNodes_eq above rest (i + 1), List.zipIdx_cons, List.flatMap_cons]

theorem entryNodes_eq (above : List Part) :
    ∀ entries : List (String × Json), entryNodes above entries =
      entries.flatMap fun (key, v) => ⟨above, .key key, v⟩ :: v.nodes (above ++ [.key key])
  | [] => rfl
  | (key, v) :: rest => by
      rw [entryNodes, entryNodes_eq above rest, List.flatMap_cons]

/-- The nodes inside a value: each child, followed by the nodes inside it. -/
theorem nodes_eq (above : List Part) (v : Json) :
    v.nodes above = v.children.flatMap fun c =>
      ⟨above, c.1, c.2⟩ :: c.2.nodes (above ++ [c.1]) := by
  cases v with
  | array items =>
      rw [nodes, itemNodes_eq, children, List.flatMap_map]
  | object entries =>
      rw [nodes, entryNodes_eq, children, List.flatMap_map]
  | null | bool b | number n | string s => rfl

/-- A node inside a value is a child or lies inside one. -/
theorem mem_nodes_iff {above : List Part} {v : Json} {n : Node} :
    n ∈ v.nodes above ↔ ∃ part w, (part, w) ∈ v.children ∧
      (n = ⟨above, part, w⟩ ∨ n ∈ w.nodes (above ++ [part])) := by
  rw [nodes_eq, List.mem_flatMap]
  simp only [List.mem_cons, Prod.exists]

theorem isContainer_of_mem_childNodes {m n : Node} (h : m ∈ n.childNodes) :
    n.value.isContainer := by
  obtain ⟨c, hc, rfl⟩ := List.mem_map.mp h
  exact isContainer_of_mem_children hc

/-- The children of arrays are those with an index. -/
theorem isIndex_of_mem_childNodes {m n : Node} (h : m ∈ n.childNodes) :
    m.last.isIndex = (n.value.kind == .array) := by
  obtain ⟨c, hc, rfl⟩ := List.mem_map.mp h
  exact isIndex_of_mem_children hc

/-- The fields of a document are its nodes without their addresses. -/
theorem fields_along (base : Option String) (v : Json) (above : List Part) :
    v.fields (Path.along base above) = (v.nodes above).map (Node.field base) := by
  induction v using childInduction generalizing above with
  | parent v ih =>
      rw [fields_eq, nodes_eq, List.map_flatMap]
      refine List.flatMap_congr fun c hc => ?_
      rw [← Path.along_concat, ih c.1 c.2 hc, List.map_cons]
      rfl

theorem fields_none (v : Json) : v.fields none = (v.nodes []).map (Node.field none) :=
  fields_along none v []

/-! ## Lengths of paths -/

/-- The paths of the nodes inside a value are longer than the path of the value. -/
theorem length_lt_path {base : Option String} {v : Json} {above : List Part} {start : String}
    (at_start : Path.along base above = some start) {n : Node} (h : n ∈ v.nodes above) :
    start.length < (n.path base).length := by
  induction v using childInduction generalizing above start with
  | parent v ih =>
      obtain ⟨part, w, hc, rfl | hn⟩ := mem_nodes_iff.mp h
      · rw [Node.path, Node.parent, at_start]
        exact Path.length_lt_compose start part
      · have deeper := ih part w hc (Path.along_concat base above part) hn
        rw [at_start] at deeper
        exact Nat.lt_trans (Path.length_lt_compose start part) deeper

/-- No node inside a value has the path of the value. -/
theorem along_ne_path {base : Option String} {v : Json} {above : List Part} {n : Node}
    (h : n ∈ v.nodes above) : Path.along base above ≠ some (n.path base) :=
  fun same => Nat.lt_irrefl _ (length_lt_path same h)

/-- The parents of the nodes inside a value are the value or lie inside it. -/
theorem exists_parent {base : Option String} {v : Json} {above : List Part} {start : String}
    (at_start : Path.along base above = some start) {n : Node} (h : n ∈ v.nodes above) :
    ∃ parent, n.parent base = some parent ∧ start.length ≤ parent.length := by
  induction v using childInduction generalizing above start with
  | parent v ih =>
      obtain ⟨part, w, hc, rfl | hn⟩ := mem_nodes_iff.mp h
      · exact ⟨start, at_start, Nat.le_refl _⟩
      · obtain ⟨parent, hp, hl⟩ := ih part w hc (Path.along_concat base above part) hn
        rw [at_start] at hl
        exact ⟨parent, hp, Nat.le_trans (Nat.le_of_lt (Path.length_lt_compose start part)) hl⟩

/-! ## Nodes by their parents -/

/-- The nodes whose parent lies at the path of a value are its children. -/
theorem filter_parent_nodes_self {base : Option String} {v : Json} {above : List Part}
    {path : String} (at_path : Path.along base above = some path) :
    (v.nodes above).filter (fun n => n.parent base == some path) = v.childNodes above := by
  rw [nodes_eq, List.filter_flatMap, childNodes, List.map_eq_flatMap]
  refine List.flatMap_congr fun c hc => ?_
  have child : (Node.mk above c.1 c.2).parent base == some path := by
    simp [Node.parent, at_path]
  have deeper : (c.2.nodes (above ++ [c.1])).filter (fun n => n.parent base == some path) = [] := by
    rw [List.filter_eq_nil_iff]
    intro n hn same
    obtain ⟨parent, hp, hl⟩ := exists_parent (Path.along_concat base above c.1) hn
    rw [hp, beq_iff_eq, Option.some.injEq] at same
    have longer := Path.length_lt_compose path c.1
    rw [at_path, same] at hl
    omega
  rw [List.filter_cons, if_pos child, deeper]

/-- The nodes whose parent lies at a path are the children of the nodes at that path, in order.
Two nodes at one path never lie inside each other, so no children come in between. -/
theorem filter_parent_nodes {base : Option String} {v : Json} {above : List Part} {path : String}
    (not_at : Path.along base above ≠ some path) :
    (v.nodes above).filter (fun n => n.parent base == some path) =
      ((v.nodes above).filter (fun n => n.path base == path)).flatMap Node.childNodes := by
  induction v using childInduction generalizing above with
  | parent v ih =>
      rw [nodes_eq, List.filter_flatMap, List.filter_flatMap, List.flatMap_assoc]
      refine List.flatMap_congr fun c hc => ?_
      have child : ¬ (Node.mk above c.1 c.2).parent base == some path := by
        simpa [Node.parent] using not_at
      rw [List.filter_cons, if_neg child]
      by_cases same : (Node.mk above c.1 c.2).path base = path
      · have at_child : Path.along base (above ++ [c.1]) = some path := by
          rw [← same]
          exact Path.along_concat base above c.1
        have deeper :
            (c.2.nodes (above ++ [c.1])).filter (fun n => n.path base == path) = [] := by
          rw [List.filter_eq_nil_iff]
          intro n hn at_n
          have := length_lt_path at_child hn
          rw [beq_iff_eq] at at_n
          rw [at_n] at this
          omega
        rw [filter_parent_nodes_self at_child, List.filter_cons, if_pos (by simpa using same), deeper,
           List.flatMap_cons, List.flatMap_nil, List.append_nil]
        rfl
      · rw [List.filter_cons, if_neg (by simpa using same)]
        refine ih c.1 c.2 hc fun at_child => same ?_
        rw [Path.along_concat, Option.some.injEq] at at_child
        exact at_child

end Json

end BodyCheck
