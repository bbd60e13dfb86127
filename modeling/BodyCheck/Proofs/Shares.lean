import BodyCheck.Proofs.Simplification

/-!
# Checks by their fields

What the shares of fields and the groups of items say of each check: where it lies
(`Check.path_of_mem_ofFields`), and which checks a field is sure to have (`Check.exists_of_leaf`,
`Check.empty_mem_ofFields`).  If shares and groups are moved to other paths as a whole, so are the
checks (`Check.ofFields_eq_map`).
-/

namespace BodyCheck

/-- The groups of items that take the place of checks, if elements are checked together. -/
def foldedGroups (o : CheckOptions) (fields : List Field) : List (String × List Item) :=
  if o.simplifyArrays then itemGroups fields else []

/-- The checks of fields: the shares of those that are not listed, and the groups that list the
others. -/
theorem Check.ofFields_eq_keptShares (o : CheckOptions) (fields : List Field) :
    Check.ofFields o fields =
      keptShares (draftedShares o.checkEmptyContainers fields) (foldedGroups o fields) ++
        (foldedGroups o fields).map fun g => .items g.1 g.2 := by
  obtain ⟨simplify, checkEmpty⟩ := o
  cases simplify with
  | false =>
      have all : (draftedShares checkEmpty fields).filter (fun s => !s.1.isListed []) =
          draftedShares checkEmpty fields := by
        rw [List.filter_eq_self]
        intro s _
        rw [Field.isListed, List.any_nil, Bool.and_false]
        rfl
      rw [ofFields_eq_draftedShares, foldedGroups, if_neg Bool.false_ne_true, keptShares, all,
        List.map_nil, List.append_nil]
  | true =>
      rw [Check.ofFields_eq, keptChecks_eq_keptShares, foldedChecks, if_pos rfl,
        aggregates_arrayPaths]
      rfl

/-! ## Paths of checks -/

section

variable {o : CheckOptions} {fields : List Field}

@[simp] theorem Field.path_leafCheck (f : Field) (path : String) :
    (f.leafCheck path).path = path := by
  unfold Field.leafCheck
  split
  · rfl
  · rfl

theorem Field.path_of_mem_draftsAt {checkEmpty : Bool} {occupied : List String} {path : String}
    {f : Field} {d : Draft} (h : d ∈ f.draftsAt checkEmpty occupied path) :
    d.check.path = path := by
  rw [Field.draftsAt] at h
  split at h
  · split at h
    · rw [List.mem_singleton.mp h]
      rfl
    · cases h
  · rw [List.mem_singleton.mp h]
    exact f.path_leafCheck path

/-- A check that is kept lies where its field was placed, and a list of items where an array is
listed. -/
theorem Check.path_of_mem_ofFields {c : Check} (hc : c ∈ Check.ofFields o fields) :
    (∃ x ∈ Containers.none.placed fields, x.1 = c.path) ∨
      (c.isItems ∧ c.path ∈ arrayPaths fields) := by
  rw [Check.ofFields_eq_keptShares, List.mem_append] at hc
  rcases hc with kept | listed
  · obtain ⟨s, hs, own⟩ := List.mem_flatMap.mp kept
    obtain ⟨x, hx, rfl⟩ := List.mem_map.mp (List.mem_of_mem_filter hs)
    obtain ⟨d, hd, rfl⟩ := List.mem_map.mp own
    exact .inl ⟨x, hx, (Field.path_of_mem_draftsAt hd).symm⟩
  · obtain ⟨g, hg, rfl⟩ := List.mem_map.mp listed
    rw [foldedGroups] at hg
    split at hg
    · exact .inr ⟨rfl, (mem_itemGroups_iff.mp hg).1⟩
    · cases hg

/-- What is drafted for a field is checked, unless the field is listed. -/
theorem Check.mem_ofFields {x : String × Field} {d : Draft}
    (hx : x ∈ Containers.none.placed fields)
    (hd : d ∈ x.2.draftsAt o.checkEmptyContainers (parentPaths fields) x.1)
    (kept : x.2.isListed (foldedGroups o fields) = false) : d.check ∈ Check.ofFields o fields := by
  rw [Check.ofFields_eq_keptShares]
  refine List.mem_append_left _ (List.mem_flatMap.mpr ⟨_, List.mem_filter.mpr
    ⟨List.mem_map_of_mem hx, ?_⟩, List.mem_map_of_mem hd⟩)
  rw [kept]
  rfl

/-- A leaf has a check where it was placed, or at its parent. -/
theorem Check.exists_of_leaf {x : String × Field} (hx : x ∈ Containers.none.placed fields)
    (leaf : x.2.isContainer = false) :
    ∃ c ∈ Check.ofFields o fields, c.path = x.1 ∨ x.2.parent = some c.path := by
  cases listed : x.2.isListed (foldedGroups o fields) with
  | false =>
      have draft : (⟨x.2.parent, x.2.leafCheck x.1⟩ : Draft) ∈
          x.2.draftsAt o.checkEmptyContainers (parentPaths fields) x.1 := by
        rw [Field.draftsAt, leaf]
        exact List.mem_singleton_self _
      exact ⟨_, Check.mem_ofFields hx draft listed, .inl (x.2.path_leafCheck x.1)⟩
  | true =>
      rw [Field.isListed, Bool.and_eq_true, List.any_eq_true] at listed
      obtain ⟨-, g, hg, parent⟩ := listed
      refine ⟨.items g.1 g.2, ?_, .inr (beq_iff_eq.mp parent)⟩
      rw [Check.ofFields_eq_keptShares]
      exact List.mem_append_right _ (List.mem_map_of_mem hg)

/-- A container that is nobody's parent is checked, if such containers are. -/
theorem Check.empty_mem_ofFields {x : String × Field} (hx : x ∈ Containers.none.placed fields)
    (container : x.2.isContainer) (checked : o.checkEmptyContainers)
    (free : x.1 ∉ parentPaths fields) : .empty x.1 ∈ Check.ofFields o fields := by
  have draft : (⟨none, .empty x.1⟩ : Draft) ∈
      x.2.draftsAt o.checkEmptyContainers (parentPaths fields) x.1 := by
    rw [Field.draftsAt, if_pos container, if_pos (by simp [checked, free])]
    exact List.mem_singleton_self _
  refine Check.mem_ofFields hx draft ?_
  rw [Field.isListed, container]
  rfl

end

/-! ## Moved checks -/

/-- The check with its path replaced. -/
def Check.mapPath (g : String → String) : Check → Check
  | .value path v kind => .value (g path) v kind
  | .null path => .null (g path)
  | .items path list => .items (g path) list
  | .empty path => .empty (g path)

@[simp] theorem Check.path_mapPath (g : String → String) (c : Check) :
    (c.mapPath g).path = g c.path := by
  cases c <;> rfl

theorem Field.mapPath_leafCheck (g : String → String) (f : Field) (path : String) :
    (f.leafCheck path).mapPath g = f.leafCheck (g path) := by
  unfold Field.leafCheck
  split
  · rfl
  · rfl

/-- If shares and groups are moved, and the moved fields are listed as before, the checks are
moved. -/
theorem Check.ofFields_eq_map {o : CheckOptions} {fields more : List Field} {move : Field → Field}
    {g : String → String}
    (shares : draftedShares o.checkEmptyContainers more =
      (draftedShares o.checkEmptyContainers fields).map
        (Prod.map move (List.map (Check.mapPath g))))
    (groups : foldedGroups o more = (foldedGroups o fields).map (Prod.map g id))
    (listed : ∀ f, (move f).isListed ((foldedGroups o fields).map (Prod.map g id)) =
      f.isListed (foldedGroups o fields)) :
    Check.ofFields o more = (Check.ofFields o fields).map (Check.mapPath g) := by
  rw [Check.ofFields_eq_keptShares, Check.ofFields_eq_keptShares, List.map_append, shares, groups,
    keptShares, keptShares, List.filter_map, List.flatMap_map, List.map_flatMap, List.map_map,
    List.map_map]
  have kept : (draftedShares o.checkEmptyContainers fields).filter
      ((fun s => !s.1.isListed ((foldedGroups o fields).map (Prod.map g id))) ∘
        Prod.map move (List.map (Check.mapPath g))) =
      (draftedShares o.checkEmptyContainers fields).filter
        fun s => !s.1.isListed (foldedGroups o fields) := by
    refine List.filter_congr fun s _ => ?_
    rw [Function.comp_apply, Prod.map_fst, listed]
  rw [kept]
  rfl

end BodyCheck
