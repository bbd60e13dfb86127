import BodyCheck.Proofs.Folding

/-!
# Documents whose nodes share paths

A key may hold marks, so an entry `a.b` of the root has the path of an entry `b` inside an entry
`a`.  Children and arrays are found by the texts of paths, and what lies at one path is taken for
one node.

* A container without children is checked unless a node with children lies at its path.  So all of
  them are checked exactly if no two such nodes share a path (`Check.filter_isEmpty_ofJson`).
* What is listed at a path are the scalar children of all nodes there.  If no array shares its path
  with another container, each array that has scalar elements is listed by itself, and the leaves
  that are no elements keep their checks (`Check.filter_isItems_ofJson`).
-/

namespace BodyCheck

/-! ## Checks by their form -/

theorem Json.isEmpty_leafCheck (w : Json) (path : String) : (w.leafCheck path).isEmpty = false := by
  cases w <;> rfl

theorem Json.isItems_leafCheck (w : Json) (path : String) : (w.leafCheck path).isItems = false := by
  cases w <;> rfl

/-- The second pass adds nothing but lists of items. -/
theorem isItems_of_mem_foldedChecks {o : CheckOptions} {fields : List Field} {c : Check}
    (hc : c ∈ foldedChecks o fields) : c.isItems := by
  obtain ⟨path, rfl⟩ := exists_of_mem_foldedChecks hc
  rfl

/-- The kept checks of a node: none, that of a leaf, or that of an empty container. -/
theorem Node.keptChecks_cases (o : CheckOptions) (fields : List Field) (n : Node) :
    n.keptChecks o fields = [] ∨
      n.keptChecks o fields = [n.value.leafCheck (n.path none)] ∨
      n.keptChecks o fields = [.empty (n.path none)] := by
  rw [Node.keptChecks]
  split
  · split
    · exact .inr (.inr rfl)
    · exact .inl rfl
  · dsimp only
    split
    · exact .inl rfl
    · exact .inr (.inl rfl)

/-- No list of items is kept: the first pass makes none. -/
theorem isItems_of_mem_keptChecks {o : CheckOptions} {v : Json} {c : Check}
    (hc : c ∈ keptChecks o (v.fields none)) : c.isItems = false := by
  rw [keptChecks_eq_flatMap, List.mem_flatMap] at hc
  obtain ⟨n, -, own⟩ := hc
  rcases n.keptChecks_cases o (v.fields none) with none | leaf | empty
  · rw [none] at own
    cases own
  · rw [leaf, List.mem_singleton] at own
    rw [own]
    exact n.value.isItems_leafCheck _
  · rw [empty, List.mem_singleton] at own
    rw [own]
    rfl

/-- The lists of items are the checks that the second pass adds. -/
theorem Check.filter_isItems_eq (o : CheckOptions) (v : Json) :
    (Check.ofJson o v).filter Check.isItems = foldedChecks o (v.fields none) := by
  have kept : (keptChecks o (v.fields none)).filter Check.isItems = [] := by
    rw [List.filter_eq_nil_iff]
    intro c hc
    rw [isItems_of_mem_keptChecks hc]
    exact Bool.false_ne_true
  rw [Check.ofJson, Check.ofFields_eq, List.filter_append, kept, List.nil_append,
    List.filter_eq_self]
  exact fun c hc => isItems_of_mem_foldedChecks hc

/-- All other checks are those that it keeps. -/
theorem Check.filter_not_isItems_eq (o : CheckOptions) (v : Json) :
    (Check.ofJson o v).filter (!·.isItems) = keptChecks o (v.fields none) := by
  have folded : (foldedChecks o (v.fields none)).filter (!·.isItems) = [] := by
    rw [List.filter_eq_nil_iff]
    intro c hc
    rw [isItems_of_mem_foldedChecks hc]
    exact Bool.false_ne_true
  rw [Check.ofJson, Check.ofFields_eq, List.filter_append, folded, List.append_nil,
    List.filter_eq_self]
  intro c hc
  rw [isItems_of_mem_keptChecks hc]
  rfl

namespace Json

/-! ## Containers without children -/

/-- Some node at the path has children. -/
def isOccupied (path : String) (v : Json) : Bool :=
  (v.nodes []).any fun c => c.path none == path && !c.value.children.isEmpty

/-- The checks of the childless containers inside a document, in preorder. -/
def emptyChecks (v : Json) : List Check :=
  ((v.nodes []).filter (·.value.isChildless)).map fun n => .empty (n.path none)

section

variable {v : Json}

theorem isOccupied_iff {path : String} :
    v.isOccupied path ↔ ∃ c ∈ v.nodes [], c.path none = path ∧ c.value.children ≠ [] := by
  simp [isOccupied]

theorem contains_parentPaths (path : String) :
    (parentPaths (v.fields none)).contains path = v.isOccupied path := by
  rw [Bool.eq_iff_iff, List.contains_iff_mem, mem_parentPaths_iff_exists, isOccupied_iff]

/-- Only containers are childless. -/
theorem isContainer_of_isChildless {w : Json} (childless : w.isChildless) : w.isContainer := by
  cases w with
  | array items => rfl
  | object entries => rfl
  | null | bool b | number n | string s => cases childless

/-- A container whose path is free has no children itself. -/
theorem isContainer_and_free {n : Node} (hn : n ∈ v.nodes []) :
    (n.value.isContainer && !v.isOccupied (n.path none)) =
      (n.value.isChildless && !v.isOccupied (n.path none)) := by
  rw [Bool.eq_iff_iff, Bool.and_eq_true, Bool.and_eq_true]
  refine and_congr_left fun free => ⟨fun container => ?_, isContainer_of_isChildless⟩
  rw [isChildless_iff container]
  by_contra some_child
  rw [isOccupied_iff.mpr ⟨n, hn, rfl, some_child⟩] at free
  cases free

/-- The checks of emptiness that a node has. -/
theorem filter_isEmpty_keptChecks_node (simplify : Bool) {n : Node} (hn : n ∈ v.nodes []) :
    (n.keptChecks ⟨simplify, true⟩ (v.fields none)).filter Check.isEmpty =
      if n.value.isChildless && !v.isOccupied (n.path none)
        then [.empty (n.path none)] else [] := by
  rw [← isContainer_and_free hn, Node.keptChecks, contains_parentPaths, Bool.true_and]
  cases n.value.isContainer with
  | true =>
      rw [if_pos rfl, Bool.true_and]
      split
      · rfl
      · rfl
  | false =>
      rw [if_neg Bool.false_ne_true, Bool.false_and, if_neg Bool.false_ne_true,
        List.filter_eq_nil_iff]
      dsimp only
      split
      · intro c hc
        cases hc
      · intro c hc
        rw [List.mem_singleton.mp hc, isEmpty_leafCheck]
        exact Bool.false_ne_true

/-- The checks of emptiness that are kept. -/
theorem filter_isEmpty_keptChecks (simplify : Bool) :
    (keptChecks ⟨simplify, true⟩ (v.fields none)).filter Check.isEmpty =
      ((v.nodes []).filter fun n => n.value.isChildless && !v.isOccupied (n.path none)).map
        fun n => .empty (n.path none) := by
  rw [keptChecks_eq_flatMap, List.filter_flatMap, List.map_eq_flatMap]
  rw [List.flatMap_congr fun n hn => filter_isEmpty_keptChecks_node simplify hn,
    ← flatMap_filter_of_eq_nil fun n _ occupied => if_neg occupied]
  refine List.flatMap_congr fun n hn => ?_
  rw [if_pos (List.mem_filter.mp hn).2]

end

end Json

/-- A narrower condition selects as much exactly if it follows from the wider one. -/
theorem map_filter_and_eq_iff {α β : Type} {p q : α → Bool} {f : α → β} {l : List α} :
    (l.filter fun a => p a && q a).map f = (l.filter p).map f ↔ ∀ a ∈ l, p a → q a := by
  have narrower : (l.filter fun a => p a && q a) = (l.filter p).filter q := by
    rw [List.filter_filter]
    exact List.filter_congr fun a _ => Bool.and_comm _ _
  rw [narrower]
  constructor
  · intro same a ha wide
    have lengths := congrArg List.length same
    rw [List.length_map, List.length_map, List.length_filter_eq_length_iff] at lengths
    exact lengths a (List.mem_filter.mpr ⟨ha, wide⟩)
  · intro follows
    have all : (l.filter p).filter q = l.filter p := by
      rw [List.filter_eq_self]
      intro a ha
      exact follows a (List.mem_filter.mp ha).1 (List.mem_filter.mp ha).2
    rw [all]

/-- The containers without children that are checked are those at whose path no node has children.
So all of them are checked exactly if none shares its path with a node that has children. -/
theorem Check.filter_isEmpty_ofJson (simplify : Bool) (v : Json) :
    (Check.ofJson ⟨simplify, true⟩ v).filter Check.isEmpty =
        ((v.nodes []).filter fun n => n.value.isChildless && !v.isOccupied (n.path none)).map
          (fun n => .empty (n.path none)) ∧
      ((Check.ofJson ⟨simplify, true⟩ v).filter Check.isEmpty = v.emptyChecks ↔
        ∀ m ∈ v.nodes [], ∀ n ∈ v.nodes [], m.value.isChildless → n.value.children ≠ [] →
          m.path none ≠ n.path none) := by
  have no_items : (Check.ofJson ⟨simplify, true⟩ v).filter Check.isEmpty =
      ((Check.ofJson ⟨simplify, true⟩ v).filter (!·.isItems)).filter Check.isEmpty := by
    rw [List.filter_filter]
    refine List.filter_congr fun c _ => ?_
    cases c <;> rfl
  have listed : (Check.ofJson ⟨simplify, true⟩ v).filter Check.isEmpty =
      ((v.nodes []).filter fun n => n.value.isChildless && !v.isOccupied (n.path none)).map
        (fun n => .empty (n.path none)) := by
    rw [no_items, Check.filter_not_isItems_eq, Json.filter_isEmpty_keptChecks]
  refine ⟨listed, ?_⟩
  rw [listed, Json.emptyChecks, map_filter_and_eq_iff]
  constructor
  · intro free m hm n hn childless some_child same
    have at_m := free m hm childless
    rw [Json.isOccupied_iff.mpr ⟨n, hn, same.symm, some_child⟩] at at_m
    cases at_m
  · intro apart m hm childless
    rw [Bool.not_eq_true', ← Bool.not_eq_true, Json.isOccupied_iff]
    rintro ⟨n, hn, same, some_child⟩
    exact apart m hm n hn childless some_child same.symm

/-- An empty object goes unchecked next to an object with children at its path. -/
theorem Check.ofJson_hides_empty_object :
    let v : Json := .object [("a.b", .object []), ("a", .object [("b", .object [("c", .null)])])]
    v.WellFormed ∧ Check.ofJson ⟨false, true⟩ v = [.null "a.b.c"] ∧ v.emptyChecks = [.empty "a.b"] ∧
      (Check.ofJson ⟨false, true⟩ v).filter Check.isEmpty ≠ v.emptyChecks := by
  intro v
  have wf : v.WellFormed := by
    simp [v, Json.WellFormed, Json.WellFormedEntries]
  exact ⟨wf, by decide, by decide, by decide⟩

namespace Json

/-! ## Arrays with scalar elements -/

/-- The checks of the leaves that are no elements of arrays inside the document. -/
def otherLeafChecks (v : Json) : List Check :=
  ((v.nodes []).filter (!·.isElement)).flatMap (Node.leafChecks none)

section

variable {v : Json} (lone : v.HasLoneArrays)

include lone

/-- If arrays stand alone, a leaf keeps its check unless it is an element. -/
theorem filter_keptChecks_node (checkEmpty : Bool) {n : Node} (hn : n ∈ v.nodes []) :
    (n.keptChecks ⟨true, checkEmpty⟩ (v.fields none)).filter (!·.isEmpty) =
      if n.isElement then [] else n.leafChecks none := by
  rw [Node.keptChecks, Node.leafChecks]
  cases n.value.isContainer with
  | true =>
      rw [if_pos rfl, if_pos rfl, ite_self, List.filter_eq_nil_iff]
      split
      · intro c hc
        rw [List.mem_singleton.mp hc]
        exact Bool.false_ne_true
      · intro c hc
        cases hc
  | false =>
      rw [if_neg Bool.false_ne_true, if_neg Bool.false_ne_true]
      dsimp only
      rw [liesAt_arrayPaths lone hn, Bool.true_and]
      split
      · rfl
      · rw [List.filter_eq_self]
        intro c hc
        rw [List.mem_singleton.mp hc, isEmpty_leafCheck]
        rfl

theorem filter_keptChecks (checkEmpty : Bool) :
    (keptChecks ⟨true, checkEmpty⟩ (v.fields none)).filter (!·.isEmpty) = v.otherLeafChecks := by
  rw [keptChecks_eq_flatMap, List.filter_flatMap, otherLeafChecks,
    List.flatMap_congr fun n hn => filter_keptChecks_node lone checkEmpty hn,
    ← flatMap_filter_of_eq_nil (p := fun n => !n.isElement) fun n _ element =>
      if_pos (by simpa using element)]
  refine List.flatMap_congr fun n hn => ?_
  rw [if_neg (by simpa using (List.mem_filter.mp hn).2)]

end

end Json

/-- An aggregate lists the scalar children of all nodes at its path.  If no array shares its path
with another container, the aggregates are those of the arrays that have scalar elements, each by
itself, and the leaves with a check of their own are those that are no elements. -/
theorem Check.filter_isItems_ofJson (checkEmpty : Bool) (v : Json) :
    (∀ path items, .items path items ∈ Check.ofJson ⟨true, checkEmpty⟩ v →
        items = v.scalarsAt path) ∧
      (v.HasLoneArrays →
        (Check.ofJson ⟨true, checkEmpty⟩ v).filter Check.isItems = v.arrayChecks ∧
        (Check.ofJson ⟨true, checkEmpty⟩ v).filter (fun c => !c.isItems && !c.isEmpty) =
          v.otherLeafChecks) := by
  constructor
  · intro path items mem
    have folded : .items path items ∈ (Check.ofJson ⟨true, checkEmpty⟩ v).filter Check.isItems :=
      List.mem_filter.mpr ⟨mem, rfl⟩
    rw [Check.filter_isItems_eq] at folded
    obtain ⟨path', same⟩ := exists_of_mem_foldedChecks folded
    cases same
    exact Json.itemsAt_fields_eq path
  · intro lone
    constructor
    · rw [Check.filter_isItems_eq, Json.foldedChecks_of_hasLoneArrays lone, if_pos rfl]
    · have split : (Check.ofJson ⟨true, checkEmpty⟩ v).filter (fun c => !c.isItems && !c.isEmpty) =
          ((Check.ofJson ⟨true, checkEmpty⟩ v).filter (!·.isItems)).filter (!·.isEmpty) := by
        rw [List.filter_filter]
        exact List.filter_congr fun c _ => Bool.and_comm _ _
      rw [split, Check.filter_not_isItems_eq, Json.filter_keptChecks lone]

/-- Objects may share a path as long as arrays stand alone. -/
theorem Check.filter_isItems_shared_object :
    let v : Json := .object [("a.b", .object [("c", .array [.bool true])]),
      ("a", .object [("b", .object [("d", .array [.null, .array [.bool false]]), ("e", .null)])])]
    v.HasLoneArrays ∧ ¬ v.containerPaths.Nodup ∧
      (Check.ofJson ⟨true, true⟩ v).filter Check.isItems =
        [.items "a.b.c" [⟨.bool true, .boolean⟩], .items "a.b.d" [⟨.null, .null⟩],
          .items "a.b.d[1]" [⟨.bool false, .boolean⟩]] ∧
      (Check.ofJson ⟨true, true⟩ v).filter (fun c => !c.isItems && !c.isEmpty) =
        [.null "a.b.e"] := by
  intro v
  have lone : v.HasLoneArrays := by decide
  obtain ⟨items, others⟩ := (Check.filter_isItems_ofJson true v).2 lone
  exact ⟨lone, by decide, items.trans (by decide), others.trans (by decide)⟩

/-- An array that shares its path with an object is listed with the entries of the object, and an
array inside it, whose path is composed anew, is not listed at all. -/
theorem Check.ofJson_mixes_entries :
    let v : Json := .object [("a.b", .array [.bool true, .array [.bool false]]),
      ("a", .object [("b", .object [("c", .null)])])]
    v.WellFormed ∧
      Check.ofJson ⟨true, false⟩ v = [.value "a.b[1][0]" (.bool false) .boolean,
        .items "a.b" [⟨.bool true, .boolean⟩, ⟨.null, .null⟩]] ∧
      v.arrayChecks = [.items "a.b" [⟨.bool true, .boolean⟩],
        .items "a.b[1]" [⟨.bool false, .boolean⟩]] ∧
      v.otherLeafChecks = [.null "a.b.c"] ∧
      (Check.ofJson ⟨true, false⟩ v).filter Check.isItems ≠ v.arrayChecks := by
  intro v
  have wf : v.WellFormed := by
    simp [v, Json.WellFormed, Json.WellFormedItems, Json.WellFormedEntries]
  exact ⟨wf, by decide, by decide, by decide, by decide⟩

end BodyCheck
