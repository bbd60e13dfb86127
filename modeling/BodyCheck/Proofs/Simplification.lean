import BodyCheck.Proofs.Folding
import Mathlib.Data.List.Flatten

/-!
# What becomes of each check

With the option to check elements together, the checks of some leaves are dropped and their values
are listed elsewhere.  The two halves are decided by different passes: a draft is dropped if its own
leaf lies at the path of an array, and an item is listed for every field that does.  They match for
all lists of fields, also for those that no document has: in any order, with parents that are
missing or shared, and without values.

The account is kept in a ledger (`IsLedger`).  Each field has a share of the checks of the first
pass, which is one check if the field is a leaf.  A leaf is listed (`Field.isListed`) if its parent
is the path of a group of items.  Its share is dropped, and it is one item of this group; all other
shares are kept (`keptShares`).
-/

namespace BodyCheck

/-! ## Groups of one list -/

/-- The elements that have one of several distinct keys, grouped by key. -/
theorem perm_flatMap_filter {α κ : Type} [DecidableEq κ] (key : α → Option κ) (l : List α) :
    ∀ {keys : List κ}, keys.Nodup →
      (keys.flatMap fun k => l.filter fun a => key a == some k).Perm
        (l.filter fun a => keys.any fun k => key a == some k)
  | [], _ => by simp
  | k :: keys, nodup => by
      rw [List.nodup_cons] at nodup
      have first : (l.filter fun a => (k :: keys).any fun k => key a == some k).filter
          (fun a => key a == some k) = l.filter fun a => key a == some k := by
        rw [List.filter_filter]
        refine List.filter_congr fun a _ => ?_
        rw [List.any_cons]
        cases key a == some k <;> rfl
      -- the keys are distinct, so an element with the first key has none of the others
      have others : (l.filter fun a => (k :: keys).any fun k => key a == some k).filter
          (fun a => !(key a == some k)) = l.filter fun a => keys.any fun k => key a == some k := by
        rw [List.filter_filter]
        refine List.filter_congr fun a _ => ?_
        rw [List.any_cons]
        cases at_k : key a == some k with
        | false => rfl
        | true =>
            rw [Bool.not_true, Bool.false_and, eq_comm, List.any_eq_false]
            intro other mem same
            rw [beq_iff_eq.mp at_k, beq_iff_eq, Option.some.injEq] at same
            exact nodup.1 (same ▸ mem)
      have parts := List.filter_append_perm (fun a => key a == some k)
        (l.filter fun a => (k :: keys).any fun k => key a == some k)
      rw [first, others] at parts
      rw [List.flatMap_cons]
      exact ((perm_flatMap_filter key l nodup.2).append_left _).trans parts

/-! ## Ledgers -/

theorem Field.isEmpty_leafCheck (f : Field) (path : String) :
    (f.leafCheck path).isEmpty = false := by
  unfold Field.leafCheck
  split
  · rfl
  · rfl

/-- A leaf as an item. -/
def Field.item (f : Field) : Item := ⟨f.leafValue, f.kind⟩

/-- The field is a leaf, and its parent is the path of one of the groups. -/
def Field.isListed (groups : List (String × List Item)) (f : Field) : Bool :=
  !f.isContainer && groups.any fun g => f.parent == some g.1

/-- The shares of the fields that are not listed. -/
def keptShares (shares : List (Field × List Check)) (groups : List (String × List Item)) :
    List Check :=
  (shares.filter fun s => !s.1.isListed groups).flatMap Prod.snd

/-- The checks are accounted for by the shares of the fields, and the items in the groups by the
fields that are listed. -/
structure IsLedger (fields : List Field) (checks : List Check)
    (shares : List (Field × List Check)) (groups : List (String × List Item)) : Prop where
  /-- Each field has one share. -/
  fields_eq : shares.map Prod.fst = fields
  /-- The checks are those of all shares. -/
  checks_eq : checks = shares.flatMap Prod.snd
  /-- The share of a leaf is its own check. -/
  leaf : ∀ s ∈ shares, s.1.isContainer = false → ∃ path, s.2 = [s.1.leafCheck path]
  /-- The share of a container is at most a check of its emptiness. -/
  container : ∀ s ∈ shares, s.1.isContainer → s.2 = [] ∨ ∃ path, s.2 = [.empty path]
  /-- Groups have distinct paths, so that a leaf is listed at most once. -/
  nodup_paths : (groups.map Prod.fst).Nodup
  /-- No group is empty. -/
  items_ne_nil : ∀ g ∈ groups, g.2 ≠ []
  /-- A group holds the leaves whose parent is its path, in the order of the fields. -/
  items_eq : ∀ g ∈ groups,
    g.2 = (fields.filter fun f => !f.isContainer && f.parent == some g.1).map Field.item
  /-- The items are the leaves that are listed, one item for each of them. -/
  items_perm : (groups.flatMap Prod.snd).Perm
    ((fields.filter (Field.isListed groups)).map Field.item)

namespace IsLedger

variable {fields : List Field} {checks : List Check} {shares : List (Field × List Check)}
  {groups : List (String × List Item)}

/-- What is kept stays in order. -/
theorem keptShares_sublist (ledger : IsLedger fields checks shares groups) :
    (keptShares shares groups).Sublist checks := by
  rw [ledger.checks_eq]
  exact List.filter_sublist.flatMap Prod.snd

/-- Checks of emptiness are kept. -/
theorem filter_isEmpty_keptShares (ledger : IsLedger fields checks shares groups) :
    (keptShares shares groups).filter Check.isEmpty = checks.filter Check.isEmpty := by
  rw [ledger.checks_eq, keptShares, List.filter_flatMap, List.filter_flatMap]
  refine flatMap_filter_of_eq_nil fun s hs listed => ?_
  have leaf : s.1.isContainer = false := by
    simp only [Field.isListed, Bool.not_eq_true', Bool.not_eq_false, Bool.and_eq_true] at listed
    simpa using listed.1
  obtain ⟨path, own⟩ := ledger.leaf s hs leaf
  rw [own, List.filter_cons, s.1.isEmpty_leafCheck]
  rfl

end IsLedger

/-! ## The ledger of the checks of fields -/

/-- The fields with the checks that are drafted for them. -/
def draftedShares (checkEmpty : Bool) (fields : List Field) : List (Field × List Check) :=
  (Containers.none.placed fields).map fun x =>
    (x.2, (x.2.draftsAt checkEmpty (parentPaths fields) x.1).map (·.check))

/-- The items at the paths of arrays, where there are any. -/
def itemGroups (fields : List Field) : List (String × List Item) :=
  ((arrayPaths fields).filter fun path => !(itemsAt path fields).isEmpty).map fun path =>
    (path, itemsAt path fields)

section

variable {checkEmpty : Bool} {fields : List Field}

theorem mem_itemGroups_iff {g : String × List Item} : g ∈ itemGroups fields ↔
    g.1 ∈ arrayPaths fields ∧ g.2 ≠ [] ∧ g.2 = itemsAt g.1 fields := by
  rw [itemGroups, List.mem_map]
  constructor
  · rintro ⟨path, mem, rfl⟩
    rw [List.mem_filter] at mem
    exact ⟨mem.1, by simpa using mem.2, rfl⟩
  · rintro ⟨mem, some_item, items⟩
    rw [items] at some_item
    exact ⟨g.1, List.mem_filter.mpr ⟨mem, by simpa using some_item⟩, Prod.ext rfl items.symm⟩

theorem itemsAt_eq (path : String) (fields : List Field) : itemsAt path fields =
    (fields.filter fun f => !f.isContainer && f.parent == some path).map Field.item := by
  rw [itemsAt, ← List.filterMap_eq_map, List.filterMap_filter]
  rfl

theorem map_fst_itemGroups : (itemGroups fields).map Prod.fst =
    (arrayPaths fields).filter fun path => !(itemsAt path fields).isEmpty := by
  rw [itemGroups, List.map_map]
  exact List.map_id _

theorem nodup_paths_itemGroups (fields : List Field) :
    ((itemGroups fields).map Prod.fst).Nodup := by
  rw [map_fst_itemGroups]
  exact (nodup_eraseDups _).filter _

/-- The second pass adds one check for each group. -/
theorem aggregates_arrayPaths : aggregates (arrayPaths fields) fields =
    (itemGroups fields).map fun g => .items g.1 g.2 := by
  rw [aggregates, itemGroups, List.map_map, ← List.filterMap_eq_map, List.filterMap_filter]
  refine List.filterMap_congr fun path _ => ?_
  cases h : itemsAt path fields with
  | nil => rfl
  | cons item items => simp [h]

/-- The items are the listed leaves. -/
theorem items_perm_isListed : ((itemGroups fields).flatMap Prod.snd).Perm
    ((fields.filter (Field.isListed (itemGroups fields))).map Field.item) := by
  have grouped := perm_flatMap_filter Field.parent (fields.filter fun f => !f.isContainer)
    (nodup_paths_itemGroups fields)
  have items : (itemGroups fields).flatMap Prod.snd =
      (((itemGroups fields).map Prod.fst).flatMap fun path =>
        (fields.filter fun f => !f.isContainer).filter fun f => f.parent == some path).map
          Field.item := by
    rw [List.map_flatMap, List.flatMap_map]
    refine List.flatMap_congr fun g hg => ?_
    rw [(mem_itemGroups_iff.mp hg).2.2, itemsAt_eq, List.filter_filter]
    simp only [Bool.and_comm]
  have listed : (fields.filter fun f => !f.isContainer).filter
      (fun f => ((itemGroups fields).map Prod.fst).any fun path => f.parent == some path) =
        fields.filter (Field.isListed (itemGroups fields)) := by
    rw [List.filter_filter]
    refine List.filter_congr fun f _ => ?_
    rw [Field.isListed, List.any_map, Bool.and_comm]
    rfl
  rw [items, ← listed]
  exact grouped.map Field.item

/-- A leaf lies at the path of an array exactly if it is listed: it is an item there itself, so the
group is not empty. -/
theorem liesAt_eq_isListed {f : Field} (hf : f ∈ fields) (leaf : f.isContainer = false)
    (check : Check) :
    (⟨f.parent, check⟩ : Draft).liesAt (arrayPaths fields) = f.isListed (itemGroups fields) := by
  rw [Field.isListed, leaf, Bool.not_false, Bool.true_and, Bool.eq_iff_iff, List.any_eq_true]
  cases parent : f.parent with
  | none => simp [Draft.liesAt]
  | some path =>
      rw [Draft.liesAt, List.contains_iff_mem]
      constructor
      · intro mem
        have item : f.item ∈ itemsAt path fields := by
          rw [itemsAt_eq]
          exact List.mem_map.mpr ⟨f, List.mem_filter.mpr ⟨hf, by simp [leaf, parent]⟩, rfl⟩
        exact ⟨(path, itemsAt path fields),
          mem_itemGroups_iff.mpr ⟨mem, List.ne_nil_of_mem item, rfl⟩, beq_self_eq_true _⟩
      · rintro ⟨g, hg, same⟩
        rw [beq_iff_eq, Option.some.injEq] at same
        rw [same]
        exact (mem_itemGroups_iff.mp hg).1

/-- The second pass drops the drafts of a field that is listed and no others. -/
theorem filter_draftsAt {f : Field} (hf : f ∈ fields) (occupied : List String) (path : String) :
    (f.draftsAt checkEmpty occupied path).filter (fun d => !d.liesAt (arrayPaths fields)) =
      if f.isListed (itemGroups fields) then [] else f.draftsAt checkEmpty occupied path := by
  cases leaf : f.isContainer with
  | true =>
      rw [Field.draftsAt, if_pos leaf, Field.isListed, leaf]
      split
      · rfl
      · rfl
  | false =>
      rw [Field.draftsAt, leaf, if_neg Bool.false_ne_true, List.filter_cons,
        liesAt_eq_isListed hf leaf]
      cases f.isListed (itemGroups fields) with
      | true => rfl
      | false => rfl

theorem drafts_eq_flatMap : drafts checkEmpty fields = (Containers.none.placed fields).flatMap
    fun x => x.2.draftsAt checkEmpty (parentPaths fields) x.1 :=
  draftsFrom_eq ..

theorem ofFields_eq_draftedShares : Check.ofFields ⟨false, checkEmpty⟩ fields =
    (draftedShares checkEmpty fields).flatMap Prod.snd := by
  show (drafts checkEmpty fields).map (·.check) = _
  rw [drafts_eq_flatMap, List.map_flatMap, draftedShares, List.flatMap_map]

/-- The second pass keeps the shares of the fields that are not listed. -/
theorem keptChecks_eq_keptShares : keptChecks ⟨true, checkEmpty⟩ fields =
    keptShares (draftedShares checkEmpty fields) (itemGroups fields) := by
  have field : ∀ x ∈ Containers.none.placed fields, x.2 ∈ fields := by
    intro x hx
    rw [← Containers.none.map_snd_placed fields]
    exact List.mem_map.mpr ⟨x, hx, rfl⟩
  show ((drafts checkEmpty fields).filter fun d => !d.liesAt (arrayPaths fields)).map _ = _
  rw [drafts_eq_flatMap, List.filter_flatMap, List.map_flatMap, keptShares, draftedShares,
    List.filter_map, List.flatMap_map]
  rw [← flatMap_filter_of_eq_nil (p := fun x => !x.2.isListed (itemGroups fields))]
  · refine List.flatMap_congr fun x hx => ?_
    rw [List.mem_filter] at hx
    rw [filter_draftsAt (field x hx.1), if_neg (by simpa using hx.2)]
  · intro x hx listed
    rw [filter_draftsAt (field x hx), if_pos (by simpa using listed)]
    rfl

/-- The shares and groups of fields are a ledger of their checks. -/
theorem isLedger_draftedShares (checkEmpty : Bool) (fields : List Field) :
    IsLedger fields (Check.ofFields ⟨false, checkEmpty⟩ fields)
      (draftedShares checkEmpty fields) (itemGroups fields) where
  fields_eq := by
    rw [draftedShares, List.map_map]
    exact Containers.none.map_snd_placed fields
  checks_eq := ofFields_eq_draftedShares
  leaf := by
    intro s hs leaf
    obtain ⟨x, -, rfl⟩ := List.mem_map.mp hs
    exact ⟨x.1, by rw [Field.draftsAt, leaf]; rfl⟩
  container := by
    intro s hs container
    obtain ⟨x, -, rfl⟩ := List.mem_map.mp hs
    rw [Field.draftsAt, if_pos container]
    split
    · exact .inr ⟨x.1, rfl⟩
    · exact .inl rfl
  nodup_paths := nodup_paths_itemGroups fields
  items_ne_nil := fun _ hg => (mem_itemGroups_iff.mp hg).2.1
  items_eq := by
    intro g hg
    rw [← itemsAt_eq]
    exact (mem_itemGroups_iff.mp hg).2.2
  items_perm := items_perm_isListed

end

/-- Checking elements together replaces the shares of the listed leaves by the groups that list
them, and leaves all else in order. -/
theorem Check.exists_isLedger_ofFields (checkEmpty : Bool) (fields : List Field) :
    ∃ shares groups,
      IsLedger fields (Check.ofFields ⟨false, checkEmpty⟩ fields) shares groups ∧
      Check.ofFields ⟨true, checkEmpty⟩ fields =
        keptShares shares groups ++ groups.map (fun g => .items g.1 g.2) ∧
      (keptShares shares groups).Sublist (Check.ofFields ⟨false, checkEmpty⟩ fields) ∧
      (keptShares shares groups).filter Check.isEmpty =
        (Check.ofFields ⟨false, checkEmpty⟩ fields).filter Check.isEmpty := by
  have ledger := isLedger_draftedShares checkEmpty fields
  refine ⟨_, _, ledger, ?_, ledger.keptShares_sublist, ledger.filter_isEmpty_keptShares⟩
  rw [Check.ofFields_eq, keptChecks_eq_keptShares, foldedChecks, if_pos rfl, aggregates_arrayPaths]

/-- An element may stand in front of its array, and a leaf without a value is listed as null. -/
example : Check.ofFields ⟨true, true⟩
    [⟨some "a", "[0]", .boolean, some (.bool true)⟩, ⟨none, "a", .array, none⟩,
      ⟨some "b", "k", .null, none⟩, ⟨some "a", "k", .string, none⟩] =
    [.null "b.k", .items "a" [⟨.bool true, .boolean⟩, ⟨.null, .string⟩]] := by decide

end BodyCheck
