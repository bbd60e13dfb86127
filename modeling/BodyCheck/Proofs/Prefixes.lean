import BodyCheck.Proofs.Parents
import BodyCheck.Proofs.Shares

/-!
# The checks of a document at a path

A document at a path has the checks that it has by itself, but moved: each path stands behind that
of the document (`Json.pathBelow`).  Shares and groups are moved along (`Check.ofFields_eq_map`).

* Behind a key the same arrays are known in the end (`Json.isArray_known_some`), so they are listed
  at the moved paths (`Json.pathOf_known_some`).
* An array to which indices alone lead is listed where no scalar is (`Json.itemsAt_top_eq_nil`), so
  it has no group.  The other groups are moved (`Json.itemGroups_some`).
* What indices lead to is no longer found at its path.  All checks below a path have a dot behind
  it (`Json.isDotted_of_mem_ofFields`), but the moved check of a scalar among them has none.

So the law holds of all objects, and of the arrays that are told in `Check.ofFields_fields_some`.
-/

namespace BodyCheck

open BodyCheck.Path (Part)

theorem Path.indexKey_ne_empty (i : Nat) : indexKey i ≠ "" := by
  simp [indexKey]

/-! ## The table at the end -/

namespace Containers

/-- A table holds what has been placed, the latest container first. -/
theorem entries_seeAll (known : Containers) (fields : List Field) :
    (known.seeAll fields).entries =
      ((known.placed fields).filter (·.2.isContainer)).reverse.map (fun x => (x.1, x.2.kind)) ++
        known.entries := by
  induction fields generalizing known with
  | nil => rfl
  | cons f rest ih =>
      rw [seeAll_cons, ih, placed, see]
      by_cases container : f.isContainer
      · rw [if_pos container, List.filter_cons, if_pos container, List.reverse_cons,
          List.map_append, List.append_assoc]
        rfl
      · rw [if_neg container, List.filter_cons, if_neg container]

end Containers

/-- Lists with the same values are searched alike, if a key is found at the same places. -/
theorem lookup_map_congr {α κ β : Type} [BEq κ] [LawfulBEq κ] {key other : α → κ} {value : α → β}
    {k k' : κ} : ∀ {l : List α}, (∀ a ∈ l, key a = k ↔ other a = k') →
      (l.map fun a => (key a, value a)).lookup k = (l.map fun a => (other a, value a)).lookup k'
  | [], _ => rfl
  | a :: l, same => by
      rw [List.forall_mem_cons] at same
      rw [List.map_cons, List.map_cons, List.lookup_cons, List.lookup_cons,
        lookup_map_congr same.2]
      have here : (k == key a) = (k' == other a) := by
        rw [Bool.eq_iff_iff, beq_iff_eq, beq_iff_eq, eq_comm, same.1, eq_comm]
      rw [here]

namespace Json

/-- The containers that are known when all fields of a document have been met. -/
def known (base : Option String) (v : Json) : Containers :=
  Containers.none.seeAll (v.fields base)

/-- The path of what lies at a path in a document, if the document itself lies at a path. -/
def pathBelow (start : String) (v : Json) (path : String) : String :=
  Path.compose (some start) path (v.kind == .array)

section

variable {v : Json} {n : Node} (start : String)

theorem injective_pathBelow (v : Json) : (v.pathBelow start).Injective :=
  fun _ _ same => Path.compose_some_inj.mp same

theorem path_some_eq_pathBelow (hn : n ∈ v.nodes []) :
    n.path (some start) = v.pathBelow start (n.path none) :=
  n.path_some start hn

theorem fields_eq_map (base : Option String) (v : Json) :
    v.fields base = (v.nodes []).map (Node.field base) :=
  fields_along base v []

theorem fields_some (v : Json) :
    v.fields (some start) = (v.fields none).map (Field.below start (v.kind == .array)) := by
  rw [fields_eq_map, fields_none, List.map_map]
  exact List.map_congr_left fun n hn => n.field_some start hn

theorem entries_known {base : Option String} {place : Node → String}
    (placed : Containers.none.placed (v.fields base) =
      (v.nodes []).map fun n => (place n, n.field base)) :
    (v.known base).entries =
      ((v.nodes []).filter (·.value.isContainer)).reverse.map fun n => (place n, n.value.kind) := by
  rw [known, Containers.entries_seeAll, placed, List.filter_map, ← List.map_reverse, List.map_map]
  exact List.append_nil _

/-- A node at the path of a parent is there in a document at a path, too. -/
theorem along_above_eq {m n : Node} (hm : m ∈ v.nodes []) (hn : n ∈ v.nodes [])
    (same : n.parent none = some (m.path none)) :
    Path.along (some start) n.above = Path.along (some start) m.address := by
  have parent := n.parent_some start hn
  rw [same] at parent
  rw [Node.along_address, m.path_some start hm]
  exact parent

/-- Where only indices lead, no array is known below a path. -/
theorem isArray_known_of_isIndex (indices : ∀ part ∈ n.above, part.isIndex) :
    (v.known (some start)).isArray (n.parent (some start)) = false := by
  refine (Containers.untouched_none start).seeAll (fun x hx => ?_) n.above indices
  rw [placed_fields_some] at hx
  obtain ⟨m, -, rfl⟩ := List.mem_map.mp hx
  exact m.isDotted_place start

/-- Indices lead to one place only, so no array is known at the parent of an entry there. -/
theorem isArray_known_of_key (hn : n ∈ v.nodes []) (indices : ∀ part ∈ n.above, part.isIndex)
    (key : n.last.isIndex = false) : (v.known none).isArray (n.parent none) = false := by
  cases parent : n.parent none with
  | none => rfl
  | some path =>
      rw [Containers.isArray, beq_eq_false_iff_ne]
      intro array
      rw [Containers.kind?, List.lookup_eq_some_iff] at array
      obtain ⟨front, rest, entries, -⟩ := array
      have mem : (path, Kind.array) ∈ (v.known none).entries := by
        rw [entries]
        exact List.mem_append_right _ (List.mem_cons_self ..)
      rw [entries_known (placed_fields_none v), List.mem_map] at mem
      obtain ⟨m, hm, same⟩ := mem
      rw [Prod.mk.injEq] at same
      have hm := List.mem_of_mem_filter (List.mem_reverse.mp hm)
      have address : m.address = n.above := by
        refine Path.eq_of_along_eq indices (along_above_eq "" hm hn ?_).symm
        rw [parent, same.1]
      have index := isIndex_eq_of_address indices hm hn address rfl
      rw [key, same.2] at index
      cases index

/-- Behind a key, an array is known below a path exactly if it is known without the path. -/
theorem isArray_known_some (hn : n ∈ v.nodes []) (key : ¬ ∀ part ∈ n.above, part.isIndex) :
    (v.known (some start)).isArray (n.parent (some start)) =
      (v.known none).isArray (n.parent none) := by
  rw [n.parent_some start hn]
  cases parent : n.parent none with
  | none =>
      rw [Path.eq_nil_of_along_eq_none parent] at key
      exact absurd (fun _ mem => nomatch mem) key
  | some path =>
      have lookup : (v.known (some start)).kind? (v.pathBelow start path) =
          (v.known none).kind? path := by
        rw [Containers.kind?, Containers.kind?, entries_known (placed_fields_none v),
          entries_known (placed_fields_some start v)]
        refine lookup_map_congr fun m hm => ?_
        have hm := List.mem_of_mem_filter (List.mem_reverse.mp hm)
        cases top : m.isTop with
        | false =>
            rw [m.place_of_not_isTop top, path_some_eq_pathBelow start hm,
              (injective_pathBelow start v).eq_iff]
        | true =>
            have other : m.path none ≠ path := by
              rintro rfl
              have address := Path.eq_of_along_eq (List.all_eq_true.mp top)
                (along_above_eq start hm hn parent)
              rw [address] at key
              exact key (List.all_eq_true.mp top)
            have apart : m.place start ≠ v.pathBelow start path := by
              intro same
              refine Node.along_ne_place hn hm top start rfl ?_
              rw [same]
              exact (n.parent_some start hn).trans (by rw [parent]; rfl)
            exact ⟨fun same => absurd same apart, fun same => absurd same other⟩
      exact congrArg (· == some Kind.array) lookup

/-- Composing a path and moving it may be exchanged. -/
theorem compose_below {parent : Option String} {text : String} {array : Bool}
    (root : parent = none → array = (v.kind == .array)) :
    Path.compose (some (Path.below start (v.kind == .array) parent)) text array =
      v.pathBelow start (Path.compose parent text array) := by
  cases parent with
  | none =>
      rw [root rfl]
      rfl
  | some path =>
      rw [Path.below, pathBelow]
      cases v.kind == .array <;> cases array <;> simp [String.append_assoc]

/-- The paths with which arrays are listed are moved, unless only indices lead there. -/
theorem pathOf_known_some (hn : n ∈ v.nodes []) (behind : n.isTop = false) :
    (v.known (some start)).pathOf (n.field (some start)) =
      v.pathBelow start ((v.known none).pathOf (n.field none)) := by
  have array : (v.known (some start)).isArray (n.parent (some start)) =
      (v.known none).isArray (n.parent none) := by
    by_cases indices : ∀ part ∈ n.above, part.isIndex
    · have key := Node.isIndex_last_of_not_isTop behind indices
      rw [isArray_known_of_isIndex start indices, isArray_known_of_key hn indices key]
    · exact isArray_known_some start hn indices
  have root : n.parent none = none →
      (v.known none).isArray (n.parent none) = (v.kind == .array) := by
    intro root
    have above := Path.eq_nil_of_along_eq_none root
    have first := isIndex_of_mem_head? hn n.last (by rw [Node.address, above]; rfl)
    have key := Node.isIndex_last_of_not_isTop behind (by simp [above])
    rw [root, ← first, key]
    rfl
  calc (v.known (some start)).pathOf (n.field (some start))
      = Path.compose (some (Path.below start (v.kind == .array) (n.parent none))) n.last.text
          ((v.known none).isArray (n.parent none)) := by
        rw [← n.parent_some start hn, ← array]
        rfl
    _ = v.pathBelow start ((v.known none).pathOf (n.field none)) := compose_below start root

/-- Inside an array no path is empty. -/
theorem compose_ne_empty (hn : n ∈ v.nodes []) (root : v.kind == .array) (array : Bool) :
    Path.compose (n.parent none) n.last.text array ≠ "" := by
  obtain ⟨above, last, w⟩ := n
  have first := isIndex_of_mem_head? hn
  rw [root] at first
  cases above with
  | nil =>
      have index := first last rfl
      cases last with
      | key name => cases index
      | index i => exact Path.indexKey_ne_empty i
  | cons part rest =>
      have index := first part rfl
      cases part with
      | key name => cases index
      | index i =>
          obtain ⟨path, end_at, text⟩ := Path.along_some (Path.indexKey i) rest
          have parent : Node.parent none ⟨.index i :: rest, last, w⟩ = some path := end_at
          intro empty
          have none_left : path = "" := by
            rw [parent] at empty
            cases array with
            | false =>
                exact (String.append_eq_empty_iff.mp (String.append_eq_empty_iff.mp empty).1).1
            | true => exact (String.append_eq_empty_iff.mp empty).1
          rw [none_left, String.toList_empty, eq_comm, List.append_eq_nil_iff,
            String.toList_eq_nil_iff] at text
          exact Path.indexKey_ne_empty i text.1

/-! ## Items below a path -/

/-- A field is an item at a path if and only if it is one where both are moved. -/
theorem itemAt_below {path : String} (root : v.kind == .array → path ≠ "") (f : Field) :
    (f.below start (v.kind == .array)).itemAt (v.pathBelow start path) = f.itemAt path := by
  have parent : (some (Path.below start (v.kind == .array) f.parent) ==
      some (v.pathBelow start path)) = (f.parent == some path) := by
    rw [Bool.eq_iff_iff, beq_iff_eq, beq_iff_eq, Option.some.injEq, pathBelow,
      Path.below_eq_iff root]
  rw [Field.itemAt, Field.itemAt, ← parent]
  rfl

theorem itemsAt_pathBelow {path : String} (root : v.kind == .array → path ≠ "") :
    itemsAt (v.pathBelow start path) (v.fields (some start)) = itemsAt path (v.fields none) := by
  rw [itemsAt, itemsAt, fields_some, List.filterMap_map]
  exact List.filterMap_congr fun f _ => itemAt_below start root f

/-- If indices lead to no scalar, no scalar is listed with an array to which indices lead. -/
theorem parent_ne_compose {m : Node} (hm : m ∈ v.nodes []) (hn : n ∈ v.nodes [])
    (scalar : m.isTop = false) (top : n.isTop) (array : n.value.kind == .array) (flat : Bool) :
    m.parent (some start) ≠ some (Path.compose (n.parent (some start)) n.last.text flat) := by
  have indices := List.all_eq_true.mp top
  cases flat with
  | false =>
      intro same
      refine Node.along_ne_place hm hn top start rfl (same.trans ?_)
      rw [Node.place, top, Bool.not_true, Bool.and_false]
  | true =>
      intro same
      have last := (Node.isTop_iff.mp top).2
      have address := Path.eq_of_along_eq indices (same.trans (by
        rw [Node.along_address, Node.path, last]))
      have index := isIndex_eq_of_address indices hn hm rfl (by rw [← address]; rfl)
      have key := Node.isIndex_last_of_not_isTop scalar (by rw [address]; exact indices)
      rw [key, array] at index
      cases index

theorem itemsAt_eq_nil {base : Option String} {path : String}
    (alone : ∀ m ∈ v.nodes [], m.value.isContainer = false → m.parent base ≠ some path) :
    itemsAt path (v.fields base) = [] := by
  rw [itemsAt, fields_eq_map, List.filterMap_eq_nil_iff]
  refine List.forall_mem_map.mpr fun m hm => if_neg ?_
  rw [Bool.and_eq_true, Bool.not_eq_true', beq_iff_eq, not_and]
  exact alone m hm

/-- Wherever an array to which indices lead is listed, there are no items. -/
theorem itemsAt_top_eq_nil (scalars : ∀ m ∈ v.nodes [], m.isTop → m.value.isContainer)
    (hn : n ∈ v.nodes []) (top : n.isTop) (array : n.value.kind == .array) (flat : Bool) :
    itemsAt (Path.compose (n.parent (some start)) n.last.text flat) (v.fields (some start)) = [] ∧
      itemsAt (Path.compose (n.parent none) n.last.text flat) (v.fields none) = [] := by
  have behind : ∀ m ∈ v.nodes [], m.value.isContainer = false → m.isTop = false := by
    intro m hm scalar
    cases top : m.isTop with
    | false => rfl
    | true =>
        rw [scalars m hm top] at scalar
        cases scalar
  constructor
  · exact itemsAt_eq_nil fun m hm scalar =>
      parent_ne_compose start hm hn (behind m hm scalar) top array flat
  · refine itemsAt_eq_nil fun m hm scalar same => ?_
    have moved : m.parent (some start) =
        some (v.pathBelow start (Path.compose (n.parent none) n.last.text flat)) := by
      rw [m.parent_some start hm, same]
      rfl
    obtain ⟨other, composed⟩ : ∃ other,
        v.pathBelow start (Path.compose (n.parent none) n.last.text flat) =
          Path.compose (n.parent (some start)) n.last.text other := by
      rw [n.parent_some start hn]
      cases parent : n.parent none with
      | none =>
          have root : (none : Option String) = none → (v.kind == .array) = (v.kind == .array) :=
            fun _ => rfl
          exact ⟨_, (compose_below start root).symm⟩
      | some path =>
          have inside : some path = none → flat = (v.kind == .array) := fun root => nomatch root
          exact ⟨_, (compose_below start inside).symm⟩
    rw [composed] at moved
    exact parent_ne_compose start hm hn (behind m hm scalar) top array other moved

/-! ## Groups below a path -/

/-- The paths of the arrays, from the nodes. -/
theorem arrayPaths_eq (base : Option String) (v : Json) : arrayPaths (v.fields base) =
    (((v.nodes []).filter (·.value.kind == .array)).map fun n =>
      (v.known base).pathOf (n.field base)).eraseDups := by
  rw [arrayPaths, known]
  conv_lhs => rw [fields_eq_map, List.filter_map, List.map_map, ← fields_eq_map]
  rfl

/-- The arrays whose paths have items. -/
theorem filter_arrayPaths (base : Option String) (v : Json) :
    (arrayPaths (v.fields base)).filter (fun path => !(itemsAt path (v.fields base)).isEmpty) =
      (((v.nodes []).filter fun n => n.value.kind == .array &&
        !(itemsAt ((v.known base).pathOf (n.field base)) (v.fields base)).isEmpty).map fun n =>
          (v.known base).pathOf (n.field base)).eraseDups := by
  rw [arrayPaths_eq, filter_eraseDups, List.filter_map, List.filter_filter]
  simp only [Function.comp_def, Bool.and_comm]

/-- If indices lead to no scalar, the groups are moved. -/
theorem itemGroups_some (scalars : ∀ m ∈ v.nodes [], m.isTop → m.value.isContainer) :
    itemGroups (v.fields (some start)) =
      (itemGroups (v.fields none)).map (Prod.map (v.pathBelow start) id) := by
  -- an array with items is one behind a key
  have behind : ∀ n ∈ v.nodes [], n.value.kind == .array →
      itemsAt ((v.known none).pathOf (n.field none)) (v.fields none) ≠ [] → n.isTop = false := by
    intro n hn array some_item
    cases top : n.isTop with
    | false => rfl
    | true => exact absurd (itemsAt_top_eq_nil start scalars hn top array _).2 some_item
  have items : ∀ n ∈ v.nodes [], n.value.kind == .array →
      itemsAt ((v.known (some start)).pathOf (n.field (some start))) (v.fields (some start)) =
        itemsAt ((v.known none).pathOf (n.field none)) (v.fields none) := by
    intro n hn array
    cases top : n.isTop with
    | true =>
        exact (itemsAt_top_eq_nil start scalars hn top array _).1.trans
          (itemsAt_top_eq_nil start scalars hn top array _).2.symm
    | false =>
        rw [pathOf_known_some start hn top]
        exact itemsAt_pathBelow start fun root => compose_ne_empty hn root _
  have paths : ((arrayPaths (v.fields (some start))).filter fun path =>
        !(itemsAt path (v.fields (some start))).isEmpty) =
      ((arrayPaths (v.fields none)).filter fun path =>
        !(itemsAt path (v.fields none)).isEmpty).map (v.pathBelow start) := by
    rw [filter_arrayPaths, filter_arrayPaths, ← eraseDups_map (injective_pathBelow start v),
      List.map_map]
    have same : ((v.nodes []).filter fun n => n.value.kind == .array &&
        !(itemsAt ((v.known (some start)).pathOf (n.field (some start)))
          (v.fields (some start))).isEmpty) =
        (v.nodes []).filter fun n => n.value.kind == .array &&
          !(itemsAt ((v.known none).pathOf (n.field none)) (v.fields none)).isEmpty := by
      refine List.filter_congr fun n hn => ?_
      cases array : n.value.kind == .array with
      | false => rfl
      | true => rw [items n hn array]
    rw [same]
    congr 1
    refine List.map_congr_left fun n hn => ?_
    rw [List.mem_filter, Bool.and_eq_true, Bool.not_eq_true', List.isEmpty_eq_false_iff] at hn
    exact pathOf_known_some start hn.1 (behind n hn.1 hn.2.1 hn.2.2)
  rw [itemGroups, itemGroups, paths, List.map_map, List.map_map]
  refine List.map_congr_left fun path mem => ?_
  rw [List.mem_filter, arrayPaths_eq, List.mem_eraseDups, List.mem_map] at mem
  obtain ⟨⟨n, hn, rfl⟩, -⟩ := mem
  refine Prod.ext rfl (itemsAt_pathBelow start fun root => ?_)
  exact compose_ne_empty (List.mem_of_mem_filter hn) root _

/-- Inside an array no group has an empty path. -/
theorem ne_empty_of_mem_foldedGroups {o : CheckOptions} {g : String × List Item}
    (hg : g ∈ foldedGroups o (v.fields none)) (root : v.kind == .array) : g.1 ≠ "" := by
  rw [foldedGroups] at hg
  split at hg
  · have path := (mem_itemGroups_iff.mp hg).1
    rw [arrayPaths_eq, List.mem_eraseDups, List.mem_map] at path
    obtain ⟨n, hn, same⟩ := path
    rw [← same]
    exact compose_ne_empty (List.mem_of_mem_filter hn) root _
  · cases hg

/-- A field is listed if and only if it is listed where everything is moved. -/
theorem isListed_below (o : CheckOptions) (f : Field) :
    (f.below start (v.kind == .array)).isListed
        ((foldedGroups o (v.fields none)).map (Prod.map (v.pathBelow start) id)) =
      f.isListed (foldedGroups o (v.fields none)) := by
  rw [Field.isListed, Field.isListed, List.any_map]
  refine congrArg (!f.isContainer && ·) ?_
  rw [Bool.eq_iff_iff, List.any_eq_true, List.any_eq_true]
  refine exists_congr fun g => and_congr_right fun hg => ?_
  rw [Function.comp_apply, Field.below, Prod.map_fst, beq_iff_eq, beq_iff_eq, Option.some.injEq,
    pathBelow, Path.below_eq_iff (ne_empty_of_mem_foldedGroups hg)]

/-! ## Shares below a path -/

/-- A path is that of a parent if and only if it is one where both are moved. -/
theorem contains_parentPaths_some {path : String} (root : v.kind == .array → path ≠ "") :
    (parentPaths (v.fields (some start))).contains (v.pathBelow start path) =
      (parentPaths (v.fields none)).contains path := by
  rw [Bool.eq_iff_iff, List.contains_iff_mem, List.contains_iff_mem, parentPaths, parentPaths,
    fields_some, List.filterMap_map, List.mem_filterMap, List.mem_filterMap]
  refine exists_congr fun f => and_congr_right fun _ => ?_
  rw [Function.comp_apply, Field.below, Option.some.injEq, pathBelow, Path.below_eq_iff root]

/-- The checks that are drafted for a field are moved along with it. -/
theorem map_check_draftsAt_below (checkEmpty : Bool) {path : String}
    (root : v.kind == .array → path ≠ "") (f : Field) :
    ((f.below start (v.kind == .array)).draftsAt checkEmpty (parentPaths (v.fields (some start)))
        (v.pathBelow start path)).map (·.check) =
      ((f.draftsAt checkEmpty (parentPaths (v.fields none)) path).map (·.check)).map
        (Check.mapPath (v.pathBelow start)) := by
  have kind : (f.below start (v.kind == .array)).isContainer = f.isContainer := rfl
  rw [Field.draftsAt, Field.draftsAt, contains_parentPaths_some start root, kind]
  split
  · split
    · rfl
    · rfl
  · rw [List.map_singleton, List.map_singleton, List.map_singleton, Field.mapPath_leafCheck]
    rfl

/-- If indices lead to no scalar, and to no container that is checked, the shares are moved. -/
theorem draftedShares_some {checkEmpty : Bool}
    (unchecked : ∀ n ∈ v.nodes [], n.isTop → n.value.isContainer ∧ checkEmpty = false) :
    draftedShares checkEmpty (v.fields (some start)) =
      (draftedShares checkEmpty (v.fields none)).map
        (Prod.map (Field.below start (v.kind == .array))
          (List.map (Check.mapPath (v.pathBelow start)))) := by
  rw [draftedShares, draftedShares, placed_fields_some, placed_fields_none, List.map_map,
    List.map_map, List.map_map]
  refine List.map_congr_left fun n hn => Prod.ext (n.field_some start hn) ?_
  cases top : n.isTop with
  | true =>
      -- a container that is not checked has no drafts, wherever it is placed
      obtain ⟨container, rfl⟩ := unchecked n hn top
      have nothing : ∀ base path, (n.field base).draftsAt false
          (parentPaths (v.fields base)) path = [] := by
        intro base path
        have node : (n.field base).isContainer := container
        rw [Field.draftsAt, if_pos node]
        rfl
      simp only [Function.comp_apply, Prod.map_snd, nothing, List.map_nil]
  | false =>
      simp only [Function.comp_apply, Prod.map_snd, n.place_of_not_isTop top,
        path_some_eq_pathBelow start hn, n.field_some start hn]
      exact map_check_draftsAt_below start checkEmpty
        (fun root => compose_ne_empty hn root _) (n.field none)

/-- If indices lead to no scalar, and to no container that is checked, the checks are moved. -/
theorem ofFields_some {o : CheckOptions}
    (unchecked : ∀ n ∈ v.nodes [], n.isTop → n.value.isContainer ∧
      o.checkEmptyContainers = false) :
    Check.ofFields o (v.fields (some start)) =
      (Check.ofJson o v).map (Check.mapPath (v.pathBelow start)) := by
  have groups : foldedGroups o (v.fields (some start)) =
      (foldedGroups o (v.fields none)).map (Prod.map (v.pathBelow start) id) := by
    rw [foldedGroups, foldedGroups]
    split
    · exact itemGroups_some start fun m hm top => (unchecked m hm top).1
    · rfl
  exact Check.ofFields_eq_map (draftedShares_some start unchecked) groups (isListed_below start o)

/-- Below a path all checks are dotted. -/
theorem isDotted_of_mem_ofFields {o : CheckOptions} {c : Check}
    (hc : c ∈ Check.ofFields o (v.fields (some start))) : IsDotted start c.path := by
  rcases Check.path_of_mem_ofFields hc with ⟨x, hx, at_x⟩ | ⟨-, array⟩
  · rw [placed_fields_some] at hx
    obtain ⟨n, -, rfl⟩ := List.mem_map.mp hx
    rw [← at_x]
    exact n.isDotted_place start
  · rw [arrayPaths_eq, List.mem_eraseDups, List.mem_map] at array
    obtain ⟨n, -, at_n⟩ := array
    obtain ⟨parent, at_parent, -⟩ := Path.along_some start n.above
    have flat : (v.known (some start)).isArray (some parent) = true →
        ¬ ∀ part ∈ n.above, part.isIndex := by
      intro array indices
      have none_known : (v.known (some start)).isArray (n.parent (some start)) = false :=
        isArray_known_of_isIndex start indices
      rw [Node.parent, at_parent, array] at none_known
      cases none_known
    have dotted : IsDotted start
        (Path.compose (some parent) n.last.text ((v.known (some start)).isArray (some parent))) :=
      isDotted_compose at_parent flat
    rw [← at_n, Containers.pathOf, Node.field, Field.ofValue, Node.parent, at_parent]
    exact dotted

/-! ## Where the checks are moved -/

section

variable {o : CheckOptions} (moved : Check.ofFields o (v.fields (some start)) =
  (Check.ofJson o v).map (Check.mapPath (v.pathBelow start)))

include moved

/-- A scalar to which indices lead has a check without a dot, by itself or along with others. -/
theorem isContainer_of_moved (hn : n ∈ v.nodes []) (top : n.isTop) : n.value.isContainer := by
  by_contra scalar
  rw [Bool.not_eq_true] at scalar
  have indices := List.all_eq_true.mp top
  have placed : (n.path none, n.field none) ∈ Containers.none.placed (v.fields none) := by
    rw [placed_fields_none]
    exact List.mem_map_of_mem hn
  obtain ⟨c, hc, at_c⟩ := Check.exists_of_leaf (o := o) placed scalar
  have dotted : IsDotted start (v.pathBelow start c.path) := by
    have there : c.mapPath (v.pathBelow start) ∈ Check.ofFields o (v.fields (some start)) := by
      rw [moved]
      exact List.mem_map_of_mem hc
    rw [← Check.path_mapPath (v.pathBelow start) c]
    exact isDotted_of_mem_ofFields start there
  rcases at_c with own | above
  · have here : Path.along (some start) n.address = some (v.pathBelow start c.path) := by
      rw [own, ← path_some_eq_pathBelow start hn, Node.along_address]
    exact not_isDotted_of_along here indices dotted
  · have parent : Path.along (some start) n.above = some (v.pathBelow start c.path) := by
      have below := n.parent_some start hn
      rw [show n.parent none = some c.path from above] at below
      exact below
    exact not_isDotted_of_along parent (Node.isTop_iff.mp top).1 dotted

/-- A container to which indices lead is taken for one without children, at a path where no node
lies. -/
theorem unchecked_of_moved (hn : n ∈ v.nodes []) (top : n.isTop) :
    o.checkEmptyContainers = false := by
  by_contra checked
  rw [Bool.not_eq_false] at checked
  have placed : (n.place start, n.field (some start)) ∈
      Containers.none.placed (v.fields (some start)) := by
    rw [placed_fields_some]
    exact List.mem_map_of_mem hn
  have free : n.place start ∉ parentPaths (v.fields (some start)) := by
    rw [parentPaths, List.mem_filterMap]
    rintro ⟨f, hf, at_f⟩
    rw [fields_some, fields_none, List.map_map, List.mem_map] at hf
    obtain ⟨m, hm, rfl⟩ := hf
    exact Node.along_ne_place hm hn top start rfl ((m.parent_some start hm).trans at_f)
  have container := isContainer_of_moved start moved hn top
  have empty := Check.empty_mem_ofFields placed container checked free
  rw [moved, List.mem_map] at empty
  obtain ⟨c, hc, same⟩ := empty
  cases c with
  | value path w kind => cases same
  | null path => cases same
  | items path list => cases same
  | empty path =>
      rcases Check.path_of_mem_ofFields hc with ⟨x, hx, at_x⟩ | ⟨none, -⟩
      · rw [placed_fields_none] at hx
        obtain ⟨m, hm, rfl⟩ := List.mem_map.mp hx
        refine Node.along_ne_place hm hn top start (List.append_nil _).symm ?_
        rw [Node.along_address, path_some_eq_pathBelow start hm, show m.path none = path from at_x]
        exact congrArg (some ∘ Check.path) same
      · cases none

end

/-- No index leads anywhere from an object. -/
theorem isTop_of_mem_object {entries : List (String × Json)} (hn : n ∈ (object entries).nodes []) :
    n.isTop = false := by
  obtain ⟨part, rest, address, key⟩ := exists_part_of_mem_nodes hn
  rw [Node.isTop, address, List.nil_append, List.all_cons, key]
  rfl

end

end Json

/-- A document at a path has the checks that it has by itself, with their paths moved, if it is an
object.  If it is an array, this is so exactly if indices lead to no scalar in it, and to containers
only as long as containers without children are not checked. -/
theorem Check.ofFields_fields_some (o : CheckOptions) (start : String) :
    (∀ entries, Check.ofFields o ((Json.object entries).fields (some start)) =
        (Check.ofJson o (.object entries)).map (Check.mapPath (start ++ "." ++ ·))) ∧
      ∀ items, Check.ofFields o ((Json.array items).fields (some start)) =
          (Check.ofJson o (.array items)).map (Check.mapPath (start ++ ·)) ↔
        ∀ n ∈ (Json.array items).nodes [], n.isTop →
          n.value.isContainer ∧ o.checkEmptyContainers = false := by
  constructor
  · intro entries
    refine Json.ofFields_some start fun n hn top => ?_
    rw [Json.isTop_of_mem_object hn] at top
    cases top
  · intro items
    constructor
    · intro moved n hn top
      exact ⟨Json.isContainer_of_moved start moved hn top,
        Json.unchecked_of_moved start moved hn top⟩
    · exact fun unchecked => Json.ofFields_some start unchecked

/-- Behind a key everything is at its path again. -/
example : Check.ofFields ⟨true, false⟩
    ((Json.array [.array [.object [("a", .array [.null])]]]).fields (some "data")) =
      [.items "data[0][0].a" [⟨.null, .null⟩]] := by decide

/-- The elements of an array at a path are taken for entries. -/
theorem Check.ofFields_dots_elements :
    let v : Json := .array [.number (.integer 1)]
    let one : Json := .number (.integer 1)
    Check.ofFields ⟨false, false⟩ (v.fields (some "data")) = [.value "data.[0]" one .number] ∧
      (Check.ofJson ⟨false, false⟩ v).map (Check.mapPath ("data" ++ ·)) =
        [.value "data[0]" one .number] ∧
      Check.ofFields ⟨false, false⟩ (v.fields (some "data")) ≠
        (Check.ofJson ⟨false, false⟩ v).map (Check.mapPath ("data" ++ ·)) := by
  intro v one
  exact ⟨by decide, by decide, by decide⟩

end BodyCheck
