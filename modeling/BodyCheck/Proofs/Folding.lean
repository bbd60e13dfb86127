import BodyCheck.Proofs.Placement
import BodyCheck.Proofs.Repetitions
import Mathlib.Data.List.Pairwise

/-!
# The second pass

The second pass drops the checks of elements and puts one check for each array behind all others.
It knows arrays and elements by the texts of their paths only, so it says what the document says as
long as no array shares its path with another container (`Json.HasLoneArrays`).  Then

* the table at the end of the first pass still knows the kind of every container, so that all
  fields come out at the paths of their nodes once more (`Json.pathOf_seeAll`);
* a leaf lies at the path of an array exactly if it is an element of an array inside the document
  (`Json.mem_arrayPaths_iff`);
* the items found at the path of an array are its scalar elements (`Json.itemsAt_fields`).

Whatever the keys are, the items at a path are the scalar children of all nodes there
(`Json.itemsAt_fields_eq`), and a path is that of a parent exactly if some container there
has children (`Json.mem_parentPaths_iff_exists`).  If no two containers share a path, this is the
container itself (`Json.mem_parentPaths_iff`).

The two halves of the result are `Json.keptChecks_fields` and `Json.foldedChecks_fields`.
-/

namespace BodyCheck

open BodyCheck.Path (Part)

/-- Elements that contribute nothing may be left out. -/
theorem flatMap_filter_of_eq_nil {α β : Type} {p : α → Bool} {f : α → List β} :
    ∀ {l : List α}, (∀ a ∈ l, ¬ p a → f a = []) → (l.filter p).flatMap f = l.flatMap f
  | [], _ => rfl
  | a :: l, nothing => by
      rw [List.forall_mem_cons] at nothing
      rw [List.flatMap_cons, ← flatMap_filter_of_eq_nil nothing.2]
      by_cases h : p a
      · rw [List.filter_cons, if_pos h, List.flatMap_cons]
      · rw [List.filter_cons, if_neg h, nothing.1 h, List.nil_append]

/-! ## What is kept and what is folded -/

/-- The checks of the first pass that are not dropped by the second. -/
def keptChecks (o : CheckOptions) (fields : List Field) : List Check :=
  ((drafts o.checkEmptyContainers fields).filter fun d =>
    !(o.simplifyArrays && d.liesAt (arrayPaths fields))).map (·.check)

/-- The checks that the second pass adds. -/
def foldedChecks (o : CheckOptions) (fields : List Field) : List Check :=
  if o.simplifyArrays then aggregates (arrayPaths fields) fields else []

theorem Check.ofFields_eq (o : CheckOptions) (fields : List Field) :
    Check.ofFields o fields = keptChecks o fields ++ foldedChecks o fields := by
  cases simplify : o.simplifyArrays with
  | false => simp [Check.ofFields, keptChecks, foldedChecks, simplify]
  | true => simp [Check.ofFields, keptChecks, foldedChecks, simplify]

/-- The second pass adds lists of the items at paths. -/
theorem exists_of_mem_foldedChecks {o : CheckOptions} {fields : List Field} {c : Check}
    (hc : c ∈ foldedChecks o fields) : ∃ path, c = .items path (itemsAt path fields) := by
  rw [foldedChecks] at hc
  split at hc
  · obtain ⟨path, -, at_path⟩ := List.mem_filterMap.mp hc
    split at at_path
    · cases at_path
    · cases at_path
      exact ⟨path, rfl⟩
  · cases hc

/-- The checks of a node that are kept: that of a leaf, unless it lies at the path of an array and
elements are checked together, and that of a container, if its path is nobody's parent and
containers are checked. -/
def Node.keptChecks (o : CheckOptions) (fields : List Field) (n : Node) : List Check :=
  if n.value.isContainer then
    if o.checkEmptyContainers && !(parentPaths fields).contains (n.path none) then
      [.empty (n.path none)]
    else []
  else
    let draft : Draft := ⟨n.parent none, n.value.leafCheck (n.path none)⟩
    if o.simplifyArrays && draft.liesAt (arrayPaths fields) then [] else [draft.check]

theorem keptChecks_eq_flatMap (o : CheckOptions) (v : Json) : keptChecks o (v.fields none) =
    (v.nodes []).flatMap (Node.keptChecks o (v.fields none)) := by
  rw [keptChecks, drafts_fields, List.filter_flatMap, List.map_flatMap]
  refine List.flatMap_congr fun n _ => ?_
  cases scalar : n.value.isContainer with
  | true =>
      rw [Node.draftsAt_of_isContainer scalar, Node.keptChecks, if_pos scalar]
      split
      · simp [Draft.liesAt]
      · rfl
  | false =>
      rw [Node.draftsAt_of_isScalar scalar, Node.keptChecks, scalar, if_neg Bool.false_ne_true,
        List.filter_cons]
      dsimp only
      cases o.simplifyArrays && Draft.liesAt (arrayPaths (v.fields none)) ⟨n.parent none, _⟩ with
      | true => rfl
      | false => rfl

/-! ## The table at the end -/

/-- A table knows the kind that all containers at a path have. -/
theorem Containers.kind?_seeAll_eq {known : Containers} {fields : List Field} {path : String}
    {kind : Kind}
    (one : known.kind? path = some kind ∨
      ∃ x ∈ known.placed fields, x.2.isContainer ∧ x.1 = path)
    (all : ∀ x ∈ known.placed fields, x.2.isContainer → x.1 = path → x.2.kind = kind) :
    (known.seeAll fields).kind? path = some kind := by
  induction fields generalizing known with
  | nil =>
      rcases one with before | ⟨x, hx, -⟩
      · exact before
      · cases hx
  | cons f rest ih =>
      rw [placed, List.forall_mem_cons] at all
      refine ih ?_ all.2
      by_cases here : f.isContainer ∧ known.pathOf f = path
      · left
        rw [see, if_pos here.1, kind?_record, if_pos here.2.symm, all.1 here.1 here.2]
      · have unchanged : (known.see f).kind? path = known.kind? path := by
          by_cases container : f.isContainer
          · exact kind?_see fun same => here ⟨container, same⟩
          · rw [see, if_neg container]
        rw [unchanged]
        rcases one with before | ⟨x, hx, at_path⟩
        · exact .inl before
        · rw [placed] at hx
          rcases List.mem_cons.mp hx with rfl | later
          · exact absurd at_path here
          · exact .inr ⟨x, later, at_path⟩

namespace Json

/-! ## Containers and their scalar elements -/

/-- The paths of the containers inside a document, in preorder. -/
def containerPaths (v : Json) : List String :=
  ((v.nodes []).filter (·.value.isContainer)).map (Node.path none)

/-- A scalar as an item. -/
def item? (v : Json) : Option Item := if v.isScalar then some ⟨v, v.kind⟩ else none

/-- The scalar elements of an array as items, in order. -/
def scalarItems : Json → List Item
  | .array items => items.filterMap item?
  | _ => []

/-- The scalar children of a value as items, in order. -/
def scalarChildren (v : Json) : List Item := v.children.filterMap fun c => c.2.item?

/-- The value is a container without children. -/
def isChildless : Json → Bool
  | .array items => items.isEmpty
  | .object entries => entries.isEmpty
  | _ => false

theorem isContainer_of_array {v : Json} (array : v.kind == .array) : v.isContainer := by
  rw [isContainer, beq_iff_eq.mp array]
  rfl

theorem kind_eq_object {v : Json} (container : v.isContainer) (other : ¬ (v.kind == .array)) :
    v.kind = .object := by
  cases v with
  | array items => exact absurd rfl other
  | object entries => rfl
  | null | bool b | number n | string s => cases container

theorem scalarItems_of_not_array {v : Json} (other : ¬ (v.kind == .array)) :
    v.scalarItems = [] := by
  cases v with
  | array items => exact absurd rfl other
  | object entries => rfl
  | null | bool b | number n | string s => rfl

theorem scalarItems_of_isScalar {v : Json} (scalar : v.isContainer = false) :
    v.scalarItems = [] := by
  refine scalarItems_of_not_array fun array => ?_
  rw [isContainer_of_array array] at scalar
  cases scalar

theorem scalarItems_of_isChildless {v : Json} (childless : v.isChildless) :
    v.scalarItems = [] := by
  cases v with
  | array items => rw [List.isEmpty_iff.mp childless]; rfl
  | object entries => rfl
  | null | bool b | number n | string s => rfl

theorem isChildless_iff {v : Json} (container : v.isContainer) :
    v.isChildless ↔ v.children = [] := by
  cases v with
  | array items => simp [isChildless, children]
  | object entries => simp [isChildless, children]
  | null | bool b | number n | string s => cases container

/-- The scalar children of an array are its scalar elements. -/
theorem scalarChildren_of_array {v : Json} (array : v.kind == .array) :
    v.scalarChildren = v.scalarItems := by
  cases v with
  | array items =>
      have elements : items.zipIdx.map Prod.fst = items := List.zipIdx_map_fst 0 items
      conv_rhs => rw [scalarItems, ← elements, List.filterMap_map]
      rw [scalarChildren, children, List.filterMap_map]
      rfl
  | object entries => cases array
  | null | bool b | number n | string s => cases array

theorem filterMap_childNodes (above : List Part) (v : Json) :
    (v.childNodes above).filterMap (fun n => n.value.item?) = v.scalarChildren := by
  rw [childNodes, List.filterMap_map]
  rfl

/-- A field is an item at a path if its parent lies there and it is a leaf. -/
theorem itemAt_field (path : String) (n : Node) :
    (n.field none).itemAt path = if n.parent none == some path then n.value.item? else none := by
  cases scalar : n.value.isContainer with
  | true =>
      have container : (n.field none).isContainer = true := scalar
      simp [Field.itemAt, container, item?, isScalar, scalar]
  | false =>
      have leaf : (n.field none).isContainer = false := scalar
      rw [Field.itemAt, leaf, n.leafValue_field none scalar, item?, isScalar, scalar]
      rfl

end Json

/-! ## The checks of nodes -/

/-- The node is an element of an array inside the document.  The elements of a root array are no
such nodes. -/
def Node.isElement (n : Node) : Bool := n.last.isIndex && !n.above.isEmpty

/-- The checks of a node by itself: that of a leaf, unless it is an element that is checked with
the others, and that of a container without children, if such containers are checked. -/
def Node.ownChecks (o : CheckOptions) (n : Node) : List Check :=
  if n.value.isContainer then
    if o.checkEmptyContainers && n.value.isChildless then [.empty (n.path none)] else []
  else if o.simplifyArrays && n.isElement then []
  else [n.value.leafCheck (n.path none)]

/-- The check of the scalar elements of a node, if it is an array that has some. -/
def Node.arrayChecks (n : Node) : List Check :=
  match n.value.scalarItems with
  | [] => []
  | items => [.items (n.path none) items]

/-- Neither of two nodes is an array at the path of the other. -/
def Node.Apart (m n : Node) : Prop :=
  m.path none = n.path none → m.value.kind ≠ .array ∧ n.value.kind ≠ .array

instance (m n : Node) : Decidable (m.Apart n) :=
  inferInstanceAs (Decidable
    (m.path none = n.path none → m.value.kind ≠ .array ∧ n.value.kind ≠ .array))

instance : Std.Symm Node.Apart :=
  ⟨fun _ _ apart same => (apart same.symm).symm⟩

namespace Json

/-- The checks of the nodes of a document, each by itself, in preorder. -/
def ownChecks (o : CheckOptions) (v : Json) : List Check :=
  (v.nodes []).flatMap (Node.ownChecks o)

/-- The checks of the arrays inside a document, in preorder. -/
def arrayChecks (v : Json) : List Check := (v.nodes []).flatMap Node.arrayChecks

/-- The scalar children of all nodes at a path, in preorder. -/
def scalarsAt (path : String) (v : Json) : List Item :=
  ((v.nodes []).filter (·.path none == path)).flatMap fun c => c.value.scalarChildren

/-! ## Finding the containers again -/

section

variable {v : Json}

/-- A node whose parent lies at a path is a child of a node at that path. -/
theorem exists_parent_node {m : Node} {path : String} (hm : m ∈ v.nodes [])
    (h : m.parent none = some path) :
    ∃ c ∈ v.nodes [], c.path none = path ∧ m ∈ c.childNodes := by
  have mem : m ∈ (v.nodes []).filter (fun n => n.parent none == some path) := by
    rw [List.mem_filter]
    exact ⟨hm, by rw [h]; exact beq_self_eq_true _⟩
  rw [filter_parent_nodes (by simp), List.mem_flatMap] at mem
  obtain ⟨c, hc, child⟩ := mem
  rw [List.mem_filter, beq_iff_eq] at hc
  exact ⟨c, hc.1, hc.2, child⟩

theorem mem_nodes_of_mem_childNodes {m n : Node} (hn : n ∈ v.nodes [])
    (h : m ∈ n.childNodes) : m ∈ v.nodes [] := by
  have at_n : n ∈ (v.nodes []).filter (fun x => x.path none == n.path none) := by
    rw [List.mem_filter]
    exact ⟨hn, beq_self_eq_true _⟩
  have mem := List.mem_flatMap.mpr ⟨n, at_n, h⟩
  rw [← filter_parent_nodes (by simp)] at mem
  exact List.mem_of_mem_filter mem

/-- A path is that of a parent exactly if some container there has children. -/
theorem mem_parentPaths_iff_exists {path : String} : path ∈ parentPaths (v.fields none) ↔
    ∃ c ∈ v.nodes [], c.path none = path ∧ c.value.children ≠ [] := by
  rw [parentPaths, fields_none, List.filterMap_map, List.mem_filterMap]
  constructor
  · rintro ⟨m, hm, parent⟩
    obtain ⟨c, hc, at_path, child⟩ := exists_parent_node hm parent
    obtain ⟨x, hx, -⟩ := List.mem_map.mp child
    exact ⟨c, hc, at_path, List.ne_nil_of_mem hx⟩
  · rintro ⟨c, hc, rfl, some_child⟩
    obtain ⟨x, hx⟩ := List.exists_mem_of_ne_nil _ some_child
    have child : (⟨c.address, x.1, x.2⟩ : Node) ∈ c.childNodes := List.mem_map.mpr ⟨x, hx, rfl⟩
    exact ⟨_, mem_nodes_of_mem_childNodes hc child, Node.along_address none c⟩

/-- The items at a path are the scalar children of all nodes there. -/
theorem itemsAt_fields_eq (path : String) : itemsAt path (v.fields none) = v.scalarsAt path := by
  calc itemsAt path (v.fields none)
      = ((v.nodes []).filter (·.parent none == some path)).filterMap (fun m => m.value.item?) := by
        rw [itemsAt, fields_none, List.filterMap_map, List.filterMap_filter]
        exact List.filterMap_congr fun m _ => itemAt_field path m
    _ = v.scalarsAt path := by
        rw [filter_parent_nodes (by simp), List.filterMap_flatMap, scalarsAt]
        exact List.flatMap_congr fun c _ => filterMap_childNodes c.address c.value

end

/-! ## Arrays that stand alone -/

/-- No array inside the document shares its path with another container. -/
def HasLoneArrays (v : Json) : Prop :=
  ((v.nodes []).filter (·.value.isContainer)).Pairwise Node.Apart

instance (v : Json) : Decidable v.HasLoneArrays :=
  inferInstanceAs (Decidable (List.Pairwise _ _))

section

variable {v : Json} (lone : v.HasLoneArrays)

include lone

/-- A container at the path of an array is the array. -/
theorem eq_of_path_eq_of_array {m n : Node} (hm : m ∈ v.nodes []) (hn : n ∈ v.nodes [])
    (array : m.value.kind == .array) (container : n.value.isContainer)
    (same : m.path none = n.path none) : m = n := by
  by_contra other
  have apart := lone.forall (List.mem_filter.mpr ⟨hm, isContainer_of_array array⟩)
    (List.mem_filter.mpr ⟨hn, container⟩) other
  exact (apart same).1 (beq_iff_eq.mp array)

/-- Two containers at one path are of the same kind. -/
theorem kind_eq_of_path_eq {m n : Node} (hm : m ∈ v.nodes []) (hn : n ∈ v.nodes [])
    (container_m : m.value.isContainer) (container_n : n.value.isContainer)
    (same : m.path none = n.path none) : m.value.kind = n.value.kind := by
  by_cases array_m : m.value.kind == .array
  · rw [eq_of_path_eq_of_array lone hm hn array_m container_n same]
  · by_cases array_n : n.value.kind == .array
    · rw [eq_of_path_eq_of_array lone hn hm array_n container_m same.symm]
    · rw [kind_eq_object container_m array_m, kind_eq_object container_n array_n]

/-- At the end the table knows the kind of every container. -/
theorem kind?_seeAll_path {n : Node} (hn : n ∈ v.nodes []) (container : n.value.isContainer) :
    (Containers.none.seeAll (v.fields none)).kind? (n.path none) = some n.value.kind := by
  refine Containers.kind?_seeAll_eq ?_ ?_
  · refine .inr ⟨(n.path none, n.field none), ?_, container, rfl⟩
    rw [placed_fields_none]
    exact List.mem_map.mpr ⟨n, hn, rfl⟩
  · intro x hx container_x same
    rw [placed_fields_none] at hx
    obtain ⟨m, hm, rfl⟩ := List.mem_map.mp hx
    exact kind_eq_of_path_eq lone hm hn container_x container same

/-- With the table at the end, fields come out at the paths of their nodes. -/
theorem pathOf_seeAll {n : Node} (hn : n ∈ v.nodes []) :
    (Containers.none.seeAll (v.fields none)).pathOf (n.field none) = n.path none := by
  cases parent : n.parent none with
  | none => simp [Containers.pathOf, Node.path, Node.field, Field.ofValue, parent]
  | some path =>
      obtain ⟨c, hc, at_path, child⟩ := exists_parent_node hn parent
      have known := kind?_seeAll_path lone hc (isContainer_of_mem_childNodes child)
      rw [at_path] at known
      have array : (Containers.none.seeAll (v.fields none)).isArray (some path) =
          n.last.isIndex := by
        rw [isIndex_of_mem_childNodes child, Containers.isArray, known]
        rfl
      simp only [Containers.pathOf, Node.path, Node.field, Field.ofValue, parent, array]

/-- The arrays have distinct paths. -/
theorem nodup_arrayPaths :
    (((v.nodes []).filter (·.value.kind == .array)).map (Node.path none)).Nodup := by
  have arrays : ((v.nodes []).filter (·.value.kind == .array)).Sublist
      ((v.nodes []).filter (·.value.isContainer)) :=
    List.monotone_filter_right _ fun n array => isContainer_of_array array
  refine List.pairwise_map.mpr ((lone.sublist arrays).imp_of_mem fun {m n} hm _ apart same => ?_)
  exact (apart same).1 (beq_iff_eq.mp (List.mem_filter.mp hm).2)

/-- The paths of the arrays are those of the nodes that are arrays, in preorder. -/
theorem arrayPaths_fields : arrayPaths (v.fields none) =
    ((v.nodes []).filter (·.value.kind == .array)).map (Node.path none) := by
  have paths : (((v.fields none).filter (·.kind == .array)).map
      (Containers.none.seeAll (v.fields none)).pathOf) =
        ((v.nodes []).filter (·.value.kind == .array)).map (Node.path none) := by
    conv_lhs => rw [fields_none, List.filter_map, List.map_map, ← fields_none]
    refine List.map_congr_left fun n hn => ?_
    exact pathOf_seeAll lone (List.mem_of_mem_filter hn)
  rw [arrayPaths, paths, eraseDups_of_nodup (nodup_arrayPaths lone)]

/-- A node lies at the path of an array exactly if it is an element of an array inside the
document. -/
theorem mem_arrayPaths_iff {n : Node} {path : String} (hn : n ∈ v.nodes [])
    (parent : n.parent none = some path) :
    path ∈ arrayPaths (v.fields none) ↔ n.last.isIndex := by
  obtain ⟨c, hc, at_path, child⟩ := exists_parent_node hn parent
  rw [arrayPaths_fields lone, isIndex_of_mem_childNodes child]
  constructor
  · intro mem
    obtain ⟨a, ha, at_a⟩ := List.mem_map.mp mem
    rw [List.mem_filter] at ha
    rw [← eq_of_path_eq_of_array lone ha.1 hc ha.2 (isContainer_of_mem_childNodes child)
      (at_a.trans at_path.symm)]
    exact ha.2
  · intro array
    exact List.mem_map.mpr ⟨c, List.mem_filter.mpr ⟨hc, array⟩, at_path⟩

/-- The items at the path of an array are its scalar elements. -/
theorem itemsAt_fields {n : Node} (hn : n ∈ v.nodes []) (array : n.value.kind == .array) :
    itemsAt (n.path none) (v.fields none) = n.value.scalarItems := by
  have alone : ((v.nodes []).filter (·.value.isContainer)).Pairwise fun x y =>
      x.path none == n.path none → y.path none == n.path none → x ≠ n ∧ y ≠ n := by
    refine lone.imp fun {x y} apart at_x at_y => ?_
    have same := (beq_iff_eq.mp at_x).trans (beq_iff_eq.mp at_y).symm
    constructor
    · rintro rfl
      exact (apart same).1 (beq_iff_eq.mp array)
    · rintro rfl
      exact (apart same).2 (beq_iff_eq.mp array)
  have only : ((v.nodes []).filter (·.path none == n.path none)).filter (·.value.isContainer) =
      [n] := by
    rw [List.filter_comm]
    have own : n.path none == n.path none := beq_self_eq_true _
    exact filter_eq_singleton (p := fun x => x.path none == n.path none) own alone
      (List.mem_filter.mpr ⟨hn, isContainer_of_array array⟩)
  have scalars : ∀ c ∈ (v.nodes []).filter (·.path none == n.path none),
      ¬ c.value.isContainer → c.value.scalarChildren = [] := by
    intro c _ scalar
    rw [scalarChildren, children_eq_nil_of_isScalar (by simpa using scalar)]
    rfl
  rw [itemsAt_fields_eq, scalarsAt, ← flatMap_filter_of_eq_nil scalars, only,
    List.flatMap_singleton]
  exact scalarChildren_of_array array

/-- The leaf of a node lies at the path of an array exactly if the node is an element of an array
inside the document. -/
theorem liesAt_arrayPaths {n : Node} (hn : n ∈ v.nodes []) (check : Check) :
    (⟨n.parent none, check⟩ : Draft).liesAt (arrayPaths (v.fields none)) = n.isElement := by
  cases parent : n.parent none with
  | none =>
      have root : n.above = [] := Path.eq_nil_of_along_eq_none parent
      simp [Draft.liesAt, Node.isElement, root]
  | some path =>
      have inside : n.above ≠ [] := by
        intro root
        rw [Node.parent, root] at parent
        cases parent
      have mem := mem_arrayPaths_iff lone hn parent
      rw [Draft.liesAt, Node.isElement, Bool.eq_iff_iff, List.contains_iff_mem, mem]
      simp [inside]

/-- If arrays stand alone, the second pass adds the check of each array that has scalar
elements. -/
theorem foldedChecks_of_hasLoneArrays (o : CheckOptions) :
    foldedChecks o (v.fields none) = if o.simplifyArrays then v.arrayChecks else [] := by
  have folded : aggregates (arrayPaths (v.fields none)) (v.fields none) = v.arrayChecks := by
    rw [aggregates, arrayPaths_fields lone, List.filterMap_map,
      List.filterMap_eq_flatMap_toList, arrayChecks]
    have others : ∀ n ∈ v.nodes [], ¬ (n.value.kind == .array) → n.arrayChecks = [] := by
      intro n _ other
      rw [Node.arrayChecks, scalarItems_of_not_array other]
    rw [← flatMap_filter_of_eq_nil others]
    refine List.flatMap_congr fun n hn => ?_
    rw [List.mem_filter] at hn
    rw [Function.comp_apply, itemsAt_fields lone hn.1 hn.2, Node.arrayChecks]
    cases n.value.scalarItems with
    | nil => rfl
    | cons item items => rfl
  rw [foldedChecks, folded]

end

/-! ## Containers with distinct paths -/

section

variable {v : Json} (distinct : v.containerPaths.Nodup)

include distinct

/-- Two containers at one path are the same node. -/
theorem eq_of_path_eq {m n : Node} (hm : m ∈ v.nodes []) (hn : n ∈ v.nodes [])
    (container_m : m.value.isContainer) (container_n : n.value.isContainer)
    (same : m.path none = n.path none) : m = n :=
  List.inj_on_of_nodup_map distinct (List.mem_filter.mpr ⟨hm, container_m⟩)
    (List.mem_filter.mpr ⟨hn, container_n⟩) same

theorem hasLoneArrays_of_nodup : v.HasLoneArrays :=
  (List.pairwise_map.mp distinct).imp fun other same => absurd same other

/-- The path of a container is that of a parent exactly if the container has children. -/
theorem mem_parentPaths_iff {n : Node} (hn : n ∈ v.nodes []) (container : n.value.isContainer) :
    n.path none ∈ parentPaths (v.fields none) ↔ n.value.children ≠ [] := by
  rw [mem_parentPaths_iff_exists]
  constructor
  · rintro ⟨c, hc, at_path, some_child⟩
    obtain ⟨x, hx⟩ := List.exists_mem_of_ne_nil _ some_child
    rw [← eq_of_path_eq distinct hc hn (isContainer_of_mem_children hx) container at_path]
    exact some_child
  · intro some_child
    exact ⟨n, hn, rfl, some_child⟩

/-- What the second pass keeps: the checks of each node by itself. -/
theorem keptChecks_fields (o : CheckOptions) :
    keptChecks o (v.fields none) = v.ownChecks o := by
  rw [keptChecks_eq_flatMap]
  refine List.flatMap_congr fun n hn => ?_
  cases scalar : n.value.isContainer with
  | true =>
      have free :
          (!(parentPaths (v.fields none)).contains (n.path none)) = n.value.isChildless := by
        rw [Bool.not_eq_eq_eq_not, Bool.eq_iff_iff, List.contains_iff_mem,
          mem_parentPaths_iff distinct hn scalar, ne_eq, ← isChildless_iff scalar]
        simp
      rw [Node.keptChecks, if_pos scalar, Node.ownChecks, if_pos scalar, free]
  | false =>
      rw [Node.keptChecks, scalar, if_neg Bool.false_ne_true, Node.ownChecks, scalar,
        if_neg Bool.false_ne_true]
      dsimp only
      rw [liesAt_arrayPaths (hasLoneArrays_of_nodup distinct) hn]

/-- What the second pass adds: the check of each array that has scalar elements. -/
theorem foldedChecks_fields (o : CheckOptions) :
    foldedChecks o (v.fields none) = if o.simplifyArrays then v.arrayChecks else [] :=
  foldedChecks_of_hasLoneArrays (hasLoneArrays_of_nodup distinct) o

end

end Json

/-- If no two containers share a path, the checks of a document are those of its nodes, in their
order, followed by those of its arrays if elements are checked together. -/
theorem Check.ofJson_eq_ownChecks_append (o : CheckOptions) {v : Json}
    (distinct : v.containerPaths.Nodup) :
    Check.ofJson o v = v.ownChecks o ++ if o.simplifyArrays then v.arrayChecks else [] := by
  rw [Check.ofJson, Check.ofFields_eq, Json.keptChecks_fields distinct,
    Json.foldedChecks_fields distinct]

/-- A leaf may share its path with an array, and keys may hold marks. -/
theorem Check.ofJson_dotted_keys :
    let v : Json := .object [("a.b", .array [.bool true, .array [.null]]),
      ("a", .object [("b", .string "x"), ("c", .array [])])]
    v.containerPaths.Nodup ∧ Check.ofJson ⟨true, true⟩ v =
      [.value "a.b" (.string "x") .string, .empty "a.c", .items "a.b" [⟨.bool true, .boolean⟩],
        .items "a.b[1]" [⟨.null, .null⟩]] := by
  intro v
  have distinct : v.containerPaths.Nodup := by decide
  exact ⟨distinct, (Check.ofJson_eq_ownChecks_append ⟨true, true⟩ distinct).trans (by decide)⟩

end BodyCheck
