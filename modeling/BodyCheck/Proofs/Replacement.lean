import BodyCheck.Proofs.Soundness

/-!
# Documents with one value replaced

`Json.replaceAt` puts another value at an address.  What lies apart from the address stays
(`Json.follow?_replaceAt_of_not_prefix`), and the containers above it are those that they were, up
to the one child on the way (`Json.follow?_replaceAt_append`).

If no key of a document holds a mark, the checks of the document see every such replacement of a
leaf (`Check.exists_not_holdsOf_replaceAt`).  A leaf with a check of its own is looked up where it
was, and the new value is found there.  An element that is checked with the others is one of the
items of its array, and a list of items tells the scalar at every place: a new scalar stands where
the old one stood, and a container leaves a gap (`Json.scalarItems_modify_ne`).
-/

namespace BodyCheck

open BodyCheck.Path (Part)

namespace Json

/-! ## Replacing -/

/-- Entries with the value of a key changed, where it occurs first. -/
def changeEntry (f : Json → Json) (name : String) : List (String × Json) → List (String × Json)
  | [] => []
  | (key, v) :: rest =>
    if key = name then (key, f v) :: rest else (key, v) :: changeEntry f name rest

/-- A value with one child changed.  A part that leads to no child changes nothing. -/
def changeAt (f : Json → Json) : Part → Json → Json
  | .key name, .object entries => .object (changeEntry f name entries)
  | .index i, .array items => .array (items.modify i f)
  | _, v => v

/-- A document with another value at an address. -/
def replaceAt : Json → List Part → Json → Json
  | _, [], x => x
  | v, part :: rest, x => changeAt (fun w => w.replaceAt rest x) part v

example : (object [("a", .array [.null, .bool true])]).replaceAt [.key "a", .index 1] (.array []) =
    .object [("a", .array [.null, .array []])] := by decide

theorem lookup_changeEntry_self (f : Json → Json) (name : String) :
    ∀ entries : List (String × Json),
      (changeEntry f name entries).lookup name = (entries.lookup name).map f
  | [] => rfl
  | (key, v) :: rest => by
      rw [changeEntry, List.lookup_cons]
      split
      · next same => rw [List.lookup_cons, same, beq_self_eq_true, Option.map_some]
      · next other =>
          rw [List.lookup_cons, beq_false_of_ne (Ne.symm other)]
          exact lookup_changeEntry_self f name rest

theorem lookup_changeEntry_of_ne {f : Json → Json} {name other : String} (h : other ≠ name) :
    ∀ entries : List (String × Json),
      (changeEntry f name entries).lookup other = entries.lookup other
  | [] => rfl
  | (key, v) :: rest => by
      rw [changeEntry]
      split
      · next same =>
          have elsewhere : (other == key) = false := beq_false_of_ne fun here => h (here.trans same)
          rw [List.lookup_cons, List.lookup_cons, elsewhere]
      · rw [List.lookup_cons, List.lookup_cons, lookup_changeEntry_of_ne h rest]

theorem at?_changeAt_self (f : Json → Json) (part : Part) (v : Json) :
    (v.changeAt f part).at? part = (v.at? part).map f := by
  unfold changeAt
  split
  · next name entries => exact lookup_changeEntry_self f name entries
  · next i items => exact List.getElem?_modify_eq ..
  · next wrong_key wrong_index =>
      have nothing : v.at? part = none := by
        unfold at?
        split
        · next name entries => exact absurd rfl (wrong_key name entries rfl)
        · next i items => exact absurd rfl (wrong_index i items rfl)
        · rfl
      rw [nothing]
      rfl

theorem at?_changeAt_of_ne {f : Json → Json} {part other : Part} (h : other ≠ part) (v : Json) :
    (v.changeAt f part).at? other = v.at? other := by
  unfold changeAt
  split
  · next name entries =>
      cases other with
      | key name' => exact lookup_changeEntry_of_ne (fun same => h (by rw [same])) entries
      | index i => rfl
  · next i items =>
      cases other with
      | key name => rfl
      | index j =>
          have apart : i ≠ j := fun same => h (by rw [same])
          rw [at?, at?, List.getElem?_modify_ne _ _ apart]
  · rfl

theorem kind_changeAt (f : Json → Json) (part : Part) (v : Json) :
    (v.changeAt f part).kind = v.kind := by
  unfold changeAt
  split
  · rfl
  · rfl
  · rfl

/-- A node above the replaced one is what it was, with the replacement inside it. -/
theorem follow?_replaceAt_append {x : Json} {above rest : List Part} :
    ∀ {v u : Json}, v.follow? above = some u →
      (v.replaceAt (above ++ rest) x).follow? above = some (u.replaceAt rest x) := by
  induction above with
  | nil =>
      intro v u h
      cases h
      rfl
  | cons part above ih =>
      intro v u h
      rw [follow?, Option.bind_eq_some_iff] at h
      obtain ⟨w, hw, hu⟩ := h
      rw [List.cons_append, replaceAt, follow?, at?_changeAt_self, hw]
      exact ih hu

/-- The new value is at the address. -/
theorem follow?_replaceAt {x v u : Json} {address : List Part} (h : v.follow? address = some u) :
    (v.replaceAt address x).follow? address = some x := by
  have at_address : (v.replaceAt (address ++ []) x).follow? address = some (u.replaceAt [] x) :=
    follow?_replaceAt_append h
  rwa [List.append_nil] at at_address

/-- At an address that is neither above nor below the replaced one, everything stays. -/
theorem follow?_replaceAt_of_not_prefix {x : Json} {address : List Part} :
    ∀ {other : List Part} {v : Json}, ¬ address <+: other → ¬ other <+: address →
      (v.replaceAt address x).follow? other = v.follow? other := by
  induction address with
  | nil => intro other v below _; exact absurd List.nil_prefix below
  | cons part address ih =>
      intro other v below above
      cases other with
      | nil => exact absurd List.nil_prefix above
      | cons next other =>
          rw [replaceAt, follow?, follow?]
          by_cases same : next = part
          · subst same
            rw [List.cons_prefix_cons] at below above
            rw [at?_changeAt_self, Option.bind_map]
            refine Option.bind_congr fun w _ => ?_
            exact ih (fun h => below ⟨rfl, h⟩) (fun h => above ⟨rfl, h⟩)
          · rw [at?_changeAt_of_ne same]

/-! ## Items -/

theorem scalarItems_eq_append {items : List Json} {i : Nat} {w : Json} (h : items[i]? = some w) :
    (array items).scalarItems =
      (items.take i).filterMap item? ++
        (w.item?.toList ++ (items.drop (i + 1)).filterMap item?) := by
  obtain ⟨bound, at_i⟩ := List.getElem?_eq_some_iff.mp h
  have parts : items = items.take i ++ w :: items.drop (i + 1) := by
    rw [← at_i, ← List.drop_eq_getElem_cons bound, List.take_append_drop]
  conv_lhs => rw [scalarItems, parts, List.filterMap_append]
  congr 1
  rw [List.filterMap_cons]
  cases w.item? with
  | none => rfl
  | some item => rfl

/-- The items of an array tell the scalar at an index from every other value there. -/
theorem scalarItems_modify_ne {items : List Json} {i : Nat} {w x : Json} (h : items[i]? = some w)
    (scalar : w.isScalar) (other : x ≠ w) :
    (array (items.modify i fun _ => x)).scalarItems ≠ (array items).scalarItems := by
  intro same
  have at_i : (items.modify i fun _ => x)[i]? = some x := by
    rw [List.getElem?_modify_eq, h]
    rfl
  have before : (items.modify i fun _ => x).take i = items.take i := by
    rw [List.take_modify]
    exact List.modify_eq_self (by rw [List.length_take]; omega)
  have behind : (items.modify i fun _ => x).drop (i + 1) = items.drop (i + 1) :=
    List.drop_modify_of_lt _ _ _ _ (Nat.lt_succ_self i)
  rw [scalarItems_eq_append at_i, scalarItems_eq_append h, before, behind] at same
  have item := List.append_cancel_right (List.append_cancel_left same)
  rw [item?, item?, if_pos scalar] at item
  split at item
  · cases item
    exact other rfl
  · cases item

end Json

/-! ## Checks that see a replacement -/

section

variable {v : Json} {n : Node} {x : Json}

/-- The check of a leaf holds only where the path leads to the leaf. -/
theorem Json.resolve?_of_holdsOf_leafCheck {w : Json} {path : String}
    (scalar : w.isContainer = false) (h : (w.leafCheck path).HoldsOf v) :
    v.resolve? path = some w := by
  cases w with
  | array items => cases scalar
  | object entries => cases scalar
  | null => exact h
  | bool b => exact h.2.2
  | number m => exact h.2.2
  | string s => exact h.2.2

/-- An element is a child of an array inside the document. -/
theorem Json.exists_array_of_isElement (hn : n ∈ v.nodes []) (element : n.isElement) :
    ∃ c ∈ v.nodes [], n ∈ c.childNodes ∧ c.value.kind == .array := by
  rw [Node.isElement, Bool.and_eq_true] at element
  cases parent : n.parent none with
  | none =>
      rw [Path.eq_nil_of_along_eq_none parent] at element
      cases element.2
  | some path =>
      obtain ⟨c, hc, -, child⟩ := exists_parent_node hn parent
      exact ⟨c, hc, child, by rw [← isIndex_of_mem_childNodes child]; exact element.1⟩

/-- An array with a scalar element has a check. -/
theorem Node.items_mem_arrayChecks {c : Node} (child : n ∈ c.childNodes)
    (array : c.value.kind == .array) (scalar : n.value.isScalar) :
    .items (c.path none) c.value.scalarItems ∈ c.arrayChecks := by
  have item : (⟨n.value, n.value.kind⟩ : Item) ∈ c.value.scalarItems := by
    rw [← Json.scalarChildren_of_array array, ← Json.filterMap_childNodes c.address]
    exact List.mem_filterMap.mpr ⟨n, child, by rw [Json.item?, if_pos scalar]⟩
  rw [Node.arrayChecks]
  split
  · next no_item =>
      rw [no_item] at item
      cases item
  · exact List.mem_singleton_self _

variable (wf : v.WellFormed) (plain : v.HasPlainKeys) (hn : n ∈ v.nodes [])

include wf plain hn

/-- A path that leads to a node leads to the same address after a replacement inside the node. -/
theorem Json.resolve?_replaceAt (rest : List Part) :
    (v.replaceAt (n.address ++ rest) x).resolve? (n.path none) =
      some (n.value.replaceAt rest x) := by
  have root : (v.replaceAt (n.address ++ rest) x).kind = v.kind := by
    rw [Node.address, List.append_assoc]
    cases n.above with
    | nil => exact kind_changeAt ..
    | cons part above => exact kind_changeAt ..
  rw [resolve?, address?, root, ← address?, address?_path wf plain hn]
  exact follow?_replaceAt_append (follow?_of_mem_nodes wf hn)

/-- The check of a leaf by itself sees that the leaf is replaced. -/
theorem Node.not_holdsOf_leafCheck (scalar : n.value.isContainer = false) (other : x ≠ n.value) :
    ¬ (n.value.leafCheck (n.path none)).HoldsOf (v.replaceAt n.address x) := by
  intro holds
  have found := Json.resolve?_of_holdsOf_leafCheck scalar holds
  have replaced := Json.resolve?_replaceAt (x := x) wf plain hn []
  rw [List.append_nil, found, Json.replaceAt, Option.some.injEq] at replaced
  exact other replaced.symm

/-- The check of an array sees that a scalar element is replaced. -/
theorem Node.not_holdsOf_items {m : Node} (child : m ∈ n.childNodes)
    (array : n.value.kind == .array) (scalar : m.value.isScalar) (other : x ≠ m.value) :
    ¬ (Check.items (n.path none) n.value.scalarItems).HoldsOf (v.replaceAt m.address x) := by
  obtain ⟨⟨part, w⟩, hc, rfl⟩ := List.mem_map.mp child
  rcases Json.mem_children_iff.mp hc with ⟨items, i, value, rfl, at_i⟩ | ⟨entries, _, value, _, _⟩
  · have found := Json.resolve?_replaceAt (x := x) wf plain hn [.index i]
    intro holds
    rw [Check.HoldsOf, Node.address, found, value] at holds
    exact Json.scalarItems_modify_ne at_i scalar other (Option.some.inj holds)
  · rw [value] at array
    cases array

end

/-- If no key of a document holds a mark, some check of the document sees that a leaf is replaced
by another value, whatever this is. -/
theorem Check.exists_not_holdsOf_replaceAt {v : Json} (wf : v.WellFormed) (plain : v.HasPlainKeys)
    (o : CheckOptions) {n : Node} (hn : n ∈ v.nodes []) (scalar : n.value.isScalar) {x : Json}
    (other : x ≠ n.value) :
    (v.replaceAt n.address x).follow? n.address = some x ∧
      (∀ address, ¬ n.address <+: address → ¬ address <+: n.address →
        (v.replaceAt n.address x).follow? address = v.follow? address) ∧
      ∃ c ∈ Check.ofJson o v, ¬ c.HoldsOf (v.replaceAt n.address x) := by
  refine ⟨Json.follow?_replaceAt (Json.follow?_of_mem_nodes wf hn),
    fun _ => Json.follow?_replaceAt_of_not_prefix, ?_⟩
  have distinct := Json.nodup_containerPaths wf plain
  have leaf : n.value.isContainer = false := by simpa [Json.isScalar] using scalar
  rw [Check.ofJson, Check.ofFields_eq, Json.keptChecks_fields distinct,
    Json.foldedChecks_fields distinct]
  by_cases folded : o.simplifyArrays && n.isElement
  · -- the leaf is listed with the other elements of its array
    rw [Bool.and_eq_true] at folded
    obtain ⟨c, hc, child, array⟩ := Json.exists_array_of_isElement hn folded.2
    refine ⟨.items (c.path none) c.value.scalarItems, ?_,
      Node.not_holdsOf_items wf plain hc child array scalar other⟩
    rw [if_pos folded.1, List.mem_append, Json.arrayChecks]
    exact .inr (List.mem_flatMap.mpr ⟨c, hc, Node.items_mem_arrayChecks child array scalar⟩)
  · -- the leaf has a check of its own
    refine ⟨n.value.leafCheck (n.path none), ?_,
      Node.not_holdsOf_leafCheck wf plain hn leaf other⟩
    rw [List.mem_append, Json.ownChecks]
    refine .inl (List.mem_flatMap.mpr ⟨n, hn, ?_⟩)
    rw [Node.ownChecks, leaf, if_neg Bool.false_ne_true, if_neg folded]
    exact List.mem_singleton_self _

/-- A scalar element becomes an array, next to elements that are no scalars. -/
theorem Check.exists_not_holdsOf_replaced_element :
    let v : Json := .object [("a", .array [.object [], .bool true, .array [.null]]), ("", .null)]
    let n : Node := ⟨[.key "a"], .index 1, .bool true⟩
    let x : Json := .array [.bool true]
    v.WellFormed ∧ v.HasPlainKeys ∧ n ∈ v.nodes [] ∧ n.value.isScalar ∧ x ≠ n.value ∧
      v.replaceAt n.address x =
        .object [("a", .array [.object [], .array [.bool true], .array [.null]]), ("", .null)] ∧
      ∃ c ∈ Check.ofJson ⟨true, true⟩ v, ¬ c.HoldsOf (v.replaceAt n.address x) := by
  intro v n x
  have wf : v.WellFormed := by
    simp [v, Json.WellFormed, Json.WellFormedItems, Json.WellFormedEntries]
  have plain : v.HasPlainKeys := by decide
  have hn : n ∈ v.nodes [] := by decide
  have other : x ≠ n.value := by decide
  exact ⟨wf, plain, hn, rfl, other, by decide,
    (Check.exists_not_holdsOf_replaceAt wf plain ⟨true, true⟩ hn rfl other).2.2⟩

end BodyCheck
