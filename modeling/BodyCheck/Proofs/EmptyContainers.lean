import BodyCheck.Proofs.Shares

/-!
# Checks of emptiness

The option to check containers without children adds checks and changes none of the others
(`Check.filter_not_isEmpty_ofFields`).  The added checks are drafted in the first pass, between those
of the leaves, and the second pass drops none of them, since it drops the checks of leaves only.

This holds for all lists of fields, also for those that no document has.  A container is placed by
the containers in front of it, and it counts as childless if no field at all names its path as a
parent, wherever that field stands.
-/

namespace BodyCheck

/-- No field has the path as its parent. -/
def isFree (fields : List Field) (path : String) : Bool := !(parentPaths fields).contains path

/-- The containers that are nobody's parents, with the paths they are placed at. -/
def freeContainers (fields : List Field) : List (String × Field) :=
  (Containers.none.placed fields).filter fun x => x.2.isContainer && isFree fields x.1

theorem isFree_iff {fields : List Field} {path : String} :
    isFree fields path ↔ ¬ ∃ f ∈ fields, f.parent = some path := by
  simp [isFree, parentPaths]

/-! ## Checks of one field -/

/-- The option adds checks of emptiness to what is drafted for a field, and nothing else. -/
theorem Field.filter_not_isEmpty_draftsAt (f : Field) (occupied : List String) (path : String) :
    ((f.draftsAt true occupied path).map (·.check)).filter (!·.isEmpty) =
      (f.draftsAt false occupied path).map (·.check) := by
  rw [Field.draftsAt, Field.draftsAt]
  cases f.isContainer with
  | true =>
      cases occupied.contains path with
      | true => rfl
      | false => rfl
  | false => simp [isEmpty_leafCheck]

/-- The check that it adds. -/
theorem Field.filter_isEmpty_draftsAt (f : Field) (fields : List Field) (path : String) :
    ((f.draftsAt true (parentPaths fields) path).map (·.check)).filter Check.isEmpty =
      if f.isContainer && isFree fields path then [.empty path] else [] := by
  rw [Field.draftsAt, isFree]
  cases f.isContainer with
  | true =>
      cases (parentPaths fields).contains path with
      | true => rfl
      | false => rfl
  | false => simp [isEmpty_leafCheck]

/-! ## Checks of all fields -/

theorem filter_keptShares (p : Check → Bool) (shares : List (Field × List Check))
    (groups : List (String × List Item)) :
    (keptShares shares groups).filter p =
      keptShares (shares.map (Prod.map id (List.filter p))) groups := by
  rw [keptShares, keptShares, List.filter_map, List.flatMap_map, List.filter_flatMap]
  rfl

/-- Lists of items are no checks of emptiness. -/
theorem filter_isEmpty_map_items (groups : List (String × List Item)) :
    (groups.map fun g => Check.items g.1 g.2).filter Check.isEmpty = [] := by
  rw [List.filter_eq_nil_iff]
  intro c hc
  obtain ⟨g, -, rfl⟩ := List.mem_map.mp hc
  exact Bool.false_ne_true

theorem filter_not_isEmpty_map_items (groups : List (String × List Item)) :
    (groups.map fun g => Check.items g.1 g.2).filter (!·.isEmpty) =
      groups.map fun g => .items g.1 g.2 := by
  rw [List.filter_eq_self]
  intro c hc
  obtain ⟨g, -, rfl⟩ := List.mem_map.mp hc
  rfl

section

variable (fields : List Field)

/-- The shares without the option are those with it, less the checks of emptiness. -/
theorem map_filter_draftedShares :
    (draftedShares true fields).map (Prod.map id (List.filter (!·.isEmpty))) =
      draftedShares false fields := by
  rw [draftedShares, draftedShares, List.map_map]
  refine List.map_congr_left fun x _ => ?_
  rw [Function.comp_apply, Prod.map_apply, Field.filter_not_isEmpty_draftsAt]
  rfl

/-- Checks of emptiness are drafted for the containers that are nobody's parents. -/
theorem filter_isEmpty_draftedShares :
    ((draftedShares true fields).flatMap Prod.snd).filter Check.isEmpty =
      (freeContainers fields).map fun x => .empty x.1 := by
  simp only [draftedShares, List.flatMap_map, List.filter_flatMap, Field.filter_isEmpty_draftsAt]
  rw [← flatMap_filter_of_eq_nil fun x _ other => if_neg other, List.map_eq_flatMap]
  refine List.flatMap_congr fun x hx => ?_
  rw [if_pos (List.mem_filter.mp hx).2]

/-- The second pass drops none of them. -/
theorem Check.filter_isEmpty_ofFields (simplify : Bool) :
    (Check.ofFields ⟨simplify, true⟩ fields).filter Check.isEmpty =
      (freeContainers fields).map fun x => .empty x.1 := by
  rw [← filter_isEmpty_draftedShares]
  cases simplify with
  | false => rw [ofFields_eq_draftedShares]
  | true =>
      have kept := (isLedger_draftedShares true fields).filter_isEmpty_keptShares
      rw [ofFields_eq_draftedShares] at kept
      rw [Check.ofFields_eq_keptShares, List.filter_append, filter_isEmpty_map_items,
        List.append_nil]
      exact kept

/-- The option to check containers without children only adds checks.  It adds one for each
container that is placed at a path that no field has as its parent, in the order of the fields, and
leaves all other checks as and where they are without it. -/
theorem Check.filter_not_isEmpty_ofFields (simplify : Bool) :
    (Check.ofFields ⟨simplify, true⟩ fields).filter (!·.isEmpty) =
      Check.ofFields ⟨simplify, false⟩ fields ∧
    (Check.ofFields ⟨simplify, false⟩ fields).filter Check.isEmpty = [] ∧
    (Check.ofFields ⟨simplify, true⟩ fields).filter Check.isEmpty =
      (freeContainers fields).map (fun x => .empty x.1) ∧
    ∀ path, .empty path ∈ Check.ofFields ⟨simplify, true⟩ fields ↔
      (∃ x ∈ Containers.none.placed fields, x.2.isContainer ∧ x.1 = path) ∧
        ¬ ∃ f ∈ fields, f.parent = some path := by
  have others : (Check.ofFields ⟨simplify, true⟩ fields).filter (!·.isEmpty) =
      Check.ofFields ⟨simplify, false⟩ fields := by
    rw [Check.ofFields_eq_keptShares, Check.ofFields_eq_keptShares, List.filter_append,
      filter_keptShares, map_filter_draftedShares, filter_not_isEmpty_map_items]
    rfl
  have added := Check.filter_isEmpty_ofFields fields simplify
  refine ⟨others, ?_, added, fun path => ?_⟩
  · rw [← others, List.filter_filter, List.filter_eq_nil_iff]
    intro c _
    cases c.isEmpty <;> decide
  · have checked : Check.empty path ∈ Check.ofFields ⟨simplify, true⟩ fields ↔
        .empty path ∈ (freeContainers fields).map fun x => Check.empty x.1 := by
      rw [← added, List.mem_filter]
      exact (and_iff_left rfl).symm
    rw [checked, List.mem_map, ← isFree_iff]
    constructor
    · rintro ⟨x, hx, same⟩
      cases same
      obtain ⟨placed, free⟩ := List.mem_filter.mp hx
      rw [Bool.and_eq_true] at free
      exact ⟨⟨x, placed, free.1, rfl⟩, free.2⟩
    · rintro ⟨⟨x, placed, container, rfl⟩, free⟩
      exact ⟨x, List.mem_filter.mpr ⟨placed, Bool.and_eq_true_iff.mpr ⟨container, free⟩⟩, rfl⟩

end

/-- A field may have a parent that comes later, and then that is not checked. -/
example : Check.ofFields ⟨true, true⟩
    [⟨some "a", "[0]", .null, none⟩, ⟨none, "b", .object, none⟩, ⟨none, "a", .array, none⟩,
      ⟨some "a", "[1]", .array, none⟩] =
    [.empty "b", .empty "a[1]", .items "a" [⟨.null, .null⟩]] := by decide

end BodyCheck
