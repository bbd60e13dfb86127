import BodyCheck.Proofs.Addresses
import BodyCheck.Proofs.Folding

/-!
# Checks that hold

`Check.HoldsOf` says what a check means for a document: its path is read and followed, and the node
at its end is the one that the check describes.  If no key of a document holds a mark, all checks
of the document hold of it, and no two of them have the same path (`Check.ofJson_holdsOf`).

With plain keys the paths of all nodes differ, so the checks are those of the nodes
(`Json.keptChecks_fields`, `Json.foldedChecks_fields`), and it remains to look at one node.
-/

namespace BodyCheck

/-! ## What a check says -/

/-- The items that an array has to be described with; other values have none. -/
def Json.items? : Json → Option (List Item)
  | .array items => some (Json.array items).scalarItems
  | _ => none

/-- A check is true of a document. -/
def Check.HoldsOf (v : Json) : Check → Prop
  | .value path w kind => w.isScalar ∧ w.kind = kind ∧ v.resolve? path = some w
  | .null path => v.resolve? path = some .null
  | .items path list => (v.resolve? path).bind Json.items? = some list
  | .empty path => (v.resolve? path).any Json.isChildless

instance (v : Json) : ∀ c : Check, Decidable (c.HoldsOf v)
  | .value path w kind =>
      inferInstanceAs (Decidable (w.isScalar ∧ w.kind = kind ∧ v.resolve? path = some w))
  | .null path => inferInstanceAs (Decidable (v.resolve? path = some .null))
  | .items path list =>
      inferInstanceAs (Decidable ((v.resolve? path).bind Json.items? = some list))
  | .empty path => inferInstanceAs (Decidable ((v.resolve? path).any Json.isChildless))

/-- What has at most one image in each place has no image twice, if the places differ. -/
theorem nodup_map_flatMap {α β γ : Type} {f : α → List β} {g : β → γ} {place : α → γ}
    {l : List α} (places : (l.map place).Nodup)
    (one : ∀ a ∈ l, ((f a).map g).Sublist [place a]) : ((l.flatMap f).map g).Nodup := by
  refine places.sublist ?_
  clear places
  induction l with
  | nil => exact List.Sublist.refl _
  | cons a l ih =>
      rw [List.forall_mem_cons] at one
      rw [List.flatMap_cons, List.map_append, List.map_cons]
      exact one.1.append (ih one.2)

/-! ## The checks of one node -/

section

variable {v : Json} {n : Node}

/-- The check of a leaf holds if its path leads to the leaf. -/
theorem Json.holdsOf_leafCheck {w : Json} {path : String} (scalar : w.isContainer = false)
    (h : v.resolve? path = some w) : (w.leafCheck path).HoldsOf v := by
  cases w with
  | array items => cases scalar
  | object entries => cases scalar
  | null => exact h
  | bool b => exact ⟨rfl, rfl, h⟩
  | number n => exact ⟨rfl, rfl, h⟩
  | string s => exact ⟨rfl, rfl, h⟩

theorem Json.path_leafCheck (w : Json) (path : String) : (w.leafCheck path).path = path := by
  cases w <;> rfl

/-- A node has at most one check by itself, which is about the node. -/
theorem Node.ownChecks_cases (o : CheckOptions) (n : Node) :
    n.ownChecks o = [] ∨
      (n.value.isContainer = false ∧ n.ownChecks o = [n.value.leafCheck (n.path none)]) ∨
      (n.value.isChildless ∧ n.ownChecks o = [.empty (n.path none)]) := by
  rw [Node.ownChecks]
  split
  · split
    · next h => exact .inr (.inr ⟨(Bool.and_eq_true_iff.mp h).2, rfl⟩)
    · exact .inl rfl
  · next scalar =>
      split
      · exact .inl rfl
      · exact .inr (.inl ⟨by simpa using scalar, rfl⟩)

/-- A node has at most one check of its scalar elements, which is about the node. -/
theorem Node.arrayChecks_cases (n : Node) :
    n.arrayChecks = [] ∨
      (n.value.scalarItems ≠ [] ∧ n.arrayChecks = [.items (n.path none) n.value.scalarItems]) := by
  rw [Node.arrayChecks]
  split
  · exact .inl rfl
  · next h => exact .inr ⟨h, rfl⟩

theorem Node.paths_ownChecks (o : CheckOptions) (n : Node) :
    ((n.ownChecks o).map Check.path).Sublist [n.path none] := by
  rcases n.ownChecks_cases o with none | ⟨-, own⟩ | ⟨-, own⟩
  · rw [none]
    exact List.nil_sublist _
  · rw [own, List.map_singleton, Json.path_leafCheck]
  · rw [own]
    exact List.Sublist.refl _

theorem Node.paths_arrayChecks (n : Node) :
    (n.arrayChecks.map Check.path).Sublist [n.path none] := by
  rcases n.arrayChecks_cases with none | ⟨-, own⟩
  · rw [none]
    exact List.nil_sublist _
  · rw [own]
    exact List.Sublist.refl _

theorem Node.holdsOf_ownChecks {o : CheckOptions} {c : Check} (hc : c ∈ n.ownChecks o)
    (h : v.resolve? (n.path none) = some n.value) : c.HoldsOf v := by
  rcases n.ownChecks_cases o with none | ⟨scalar, own⟩ | ⟨childless, own⟩
  · rw [none] at hc
    cases hc
  · rw [own, List.mem_singleton] at hc
    rw [hc]
    exact Json.holdsOf_leafCheck scalar h
  · rw [own, List.mem_singleton] at hc
    rw [hc, Check.HoldsOf, h]
    exact childless

theorem Node.holdsOf_arrayChecks {c : Check} (hc : c ∈ n.arrayChecks)
    (h : v.resolve? (n.path none) = some n.value) : c.HoldsOf v := by
  rcases n.arrayChecks_cases with none | ⟨some_item, own⟩
  · rw [none] at hc
    cases hc
  · rw [own, List.mem_singleton] at hc
    rw [hc, Check.HoldsOf, h]
    cases array : n.value with
    | array items => rfl
    | object entries => exact absurd (by rw [array]; rfl) some_item
    | null | bool b | number m | string s => exact absurd (by rw [array]; rfl) some_item

end

/-! ## The checks of a document -/

section

variable {v : Json} (wf : v.WellFormed) (plain : v.HasPlainKeys)

include wf plain

theorem Json.nodup_containerPaths : v.containerPaths.Nodup :=
  (nodup_paths wf plain).sublist (List.filter_sublist.map _)

/-- Two nodes with one path are the same node. -/
theorem Json.eq_of_path_eq_of_hasPlainKeys {m n : Node} (hm : m ∈ v.nodes [])
    (hn : n ∈ v.nodes []) (same : m.path none = n.path none) : m = n :=
  List.inj_on_of_nodup_map (nodup_paths wf plain) hm hn same

theorem Json.holdsOf_keptChecks {o : CheckOptions} {c : Check}
    (hc : c ∈ keptChecks o (v.fields none)) : c.HoldsOf v := by
  rw [keptChecks_fields (nodup_containerPaths wf plain), ownChecks, List.mem_flatMap] at hc
  obtain ⟨n, hn, own⟩ := hc
  exact Node.holdsOf_ownChecks own (resolve?_path wf plain hn)

theorem Json.holdsOf_foldedChecks {o : CheckOptions} {c : Check}
    (hc : c ∈ foldedChecks o (v.fields none)) : c.HoldsOf v := by
  rw [foldedChecks_fields (nodup_containerPaths wf plain)] at hc
  split at hc
  · rw [arrayChecks, List.mem_flatMap] at hc
    obtain ⟨n, hn, own⟩ := hc
    exact Node.holdsOf_arrayChecks own (resolve?_path wf plain hn)
  · cases hc

/-- The kept checks have distinct paths, and so do the folded ones.  A node with a check of its own
is a scalar or has no children, so no folded check is about it. -/
theorem Json.nodup_paths_of_checks (o : CheckOptions) :
    ((keptChecks o (v.fields none) ++ foldedChecks o (v.fields none)).map Check.path).Nodup := by
  have distinct := nodup_containerPaths wf plain
  have paths := nodup_paths wf plain
  rw [keptChecks_fields distinct, foldedChecks_fields distinct]
  have own := nodup_map_flatMap paths fun n _ => n.paths_ownChecks o
  split
  · have folded := nodup_map_flatMap paths fun n _ => n.paths_arrayChecks
    rw [List.map_append, List.nodup_append']
    refine ⟨own, folded, ?_⟩
    intro path in_own in_folded
    obtain ⟨c, hc, rfl⟩ := List.mem_map.mp in_own
    obtain ⟨d, hd, same⟩ := List.mem_map.mp in_folded
    obtain ⟨n, hn, hc⟩ := List.mem_flatMap.mp hc
    obtain ⟨m, hm, hd⟩ := List.mem_flatMap.mp hd
    have path_n := (n.paths_ownChecks o).subset (List.mem_map.mpr ⟨c, hc, rfl⟩)
    have path_m := m.paths_arrayChecks.subset (List.mem_map.mpr ⟨d, hd, rfl⟩)
    rw [List.mem_singleton] at path_n path_m
    have eq := eq_of_path_eq_of_hasPlainKeys wf plain hm hn (by rw [← path_n, ← path_m, same])
    subst eq
    rcases m.arrayChecks_cases with none | ⟨some_item, -⟩
    · rw [none] at hd
      cases hd
    · rcases m.ownChecks_cases o with none | ⟨scalar, -⟩ | ⟨childless, -⟩
      · rw [none] at hc
        cases hc
      · exact some_item (scalarItems_of_isScalar scalar)
      · exact some_item (scalarItems_of_isChildless childless)
  · rw [List.append_nil]
    exact own

end

/-- If no key of a document holds a mark, every check of the document holds of it.  The path at the
end of an address is read as this address and no other, so no two checks share a path. -/
theorem Check.ofJson_holdsOf {v : Json} (wf : v.WellFormed) (plain : v.HasPlainKeys)
    (o : CheckOptions) :
    (∀ c ∈ Check.ofJson o v, c.HoldsOf v) ∧
      (∀ address path w, v.follow? address = some w → Path.along none address = some path →
        v.address? path = some address ∧ v.resolve? path = some w) ∧
      ((Check.ofJson o v).map Check.path).Nodup := by
  rw [Check.ofJson, Check.ofFields_eq]
  refine ⟨?_, ?_, Json.nodup_paths_of_checks wf plain o⟩
  · intro c hc
    rcases List.mem_append.mp hc with kept | folded
    · exact Json.holdsOf_keptChecks wf plain kept
    · exact Json.holdsOf_foldedChecks wf plain folded
  · intro address path w leads end_at
    have read := Json.address?_along plain leads end_at
    refine ⟨read, ?_⟩
    rw [Json.resolve?, read]
    exact leads

/-- Keys may be empty or hold brackets that close. -/
theorem Check.ofJson_holdsOf_odd_keys :
    let v : Json := .object [("", .array [.null, .object [("]0", .string "s"), ("", .array [])]]),
      ("0]", .object [("", .bool true)])]
    v.WellFormed ∧ v.HasPlainKeys ∧ Check.ofJson ⟨true, true⟩ v =
      [.value "[1].]0" (.string "s") .string, .empty "[1].", .value "0]." (.bool true) .boolean,
        .items "" [⟨.null, .null⟩]] ∧
      ∀ c ∈ Check.ofJson ⟨true, true⟩ v, c.HoldsOf v := by
  intro v
  have wf : v.WellFormed := by
    simp [v, Json.WellFormed, Json.WellFormedItems, Json.WellFormedEntries]
  have plain : v.HasPlainKeys := by decide
  exact ⟨wf, plain, by decide, (Check.ofJson_holdsOf wf plain ⟨true, true⟩).1⟩

end BodyCheck
