import BodyCheck.KeyedList
import BodyCheck.Proofs.Repetitions
import Mathlib.Data.List.Induction

/-!
# Laws of keyed lists

When keyed values have been put one after the other (`putEntries`), the keys stand in the order in
which they first occur (`map_fst_putEntries`), and each has its last value
(`lookup_of_mem_putEntries`).  If they are distinct, nothing changes (`putEntries_of_nodup`).
-/

namespace BodyCheck

section

variable {α : Type} {key : String} {a : α} {e : String × α} {l : List (String × α)}

/-! ## Looking up -/

theorem mem_of_lookup (h : l.lookup key = some a) : (key, a) ∈ l := by
  obtain ⟨front, back, rfl, -⟩ := List.lookup_eq_some_iff.mp h
  exact List.mem_append_right _ (List.mem_cons_self ..)

/-- Among distinct keys every entry is found by its key. -/
theorem lookup_of_mem (distinct : (l.map Prod.fst).Nodup) (mem : (key, a) ∈ l) :
    l.lookup key = some a := by
  obtain ⟨front, back, rfl⟩ := List.append_of_mem mem
  rw [List.map_append, List.map_cons, List.nodup_append] at distinct
  refine List.lookup_eq_some_iff.mpr ⟨front, back, rfl, fun e before => ?_⟩
  rw [bne_iff_ne]
  exact (distinct.2.2 e.1 (List.mem_map_of_mem before) key (List.mem_cons_self ..)).symm

/-! ## One key -/

/-- A key that is there keeps its place, and a new one stands last. -/
theorem map_fst_putEntry (key : String) (a : α) (l : List (String × α)) :
    (putEntry key a l).map Prod.fst =
      if key ∈ l.map Prod.fst then l.map Prod.fst else l.map Prod.fst ++ [key] := by
  induction l with
  | nil => rfl
  | cons e l ih =>
      obtain ⟨k, b⟩ := e
      rw [putEntry]
      by_cases same : k = key
      · simp [same]
      · simp only [if_neg same, List.map_cons, ih, List.mem_cons, Ne.symm same, false_or]
        split <;> rfl

/-- Among distinct keys the new value takes the place of the one that its key had. -/
theorem of_mem_putEntry (distinct : (l.map Prod.fst).Nodup) (mem : e ∈ putEntry key a l) :
    e = (key, a) ∨ e ∈ l ∧ e.1 ≠ key := by
  induction l with
  | nil => exact .inl (List.mem_singleton.mp mem)
  | cons f l ih =>
      obtain ⟨k, b⟩ := f
      obtain ⟨fresh, distinct⟩ := List.nodup_cons.mp distinct
      rw [putEntry] at mem
      split at mem
      · next same =>
          rcases List.mem_cons.mp mem with rfl | mem
          · exact .inl (by rw [same])
          · refine .inr ⟨List.mem_cons_of_mem _ mem, fun own => fresh ?_⟩
            exact List.mem_map.mpr ⟨e, mem, own.trans same.symm⟩
      · next other =>
          rcases List.mem_cons.mp mem with rfl | mem
          · exact .inr ⟨List.mem_cons_self .., other⟩
          · exact (ih distinct mem).imp_right fun h => ⟨List.mem_cons_of_mem _ h.1, h.2⟩

/-- A new key leaves everything in front of it as it was. -/
theorem putEntry_of_not_mem (fresh : key ∉ l.map Prod.fst) :
    putEntry key a l = l ++ [(key, a)] := by
  induction l with
  | nil => rfl
  | cons e l ih =>
      obtain ⟨k, b⟩ := e
      rw [List.map_cons, List.mem_cons, not_or] at fresh
      rw [putEntry, if_neg (Ne.symm fresh.1), ih fresh.2, List.cons_append]

/-! ## Many keys -/

theorem putEntries_concat (before l : List (String × α)) (e : String × α) :
    putEntries before (l ++ [e]) = putEntry e.1 e.2 (putEntries before l) :=
  List.foldl_concat ..

/-- Every key stands where it occurs first. -/
theorem map_fst_putEntries (l : List (String × α)) :
    (putEntries [] l).map Prod.fst = (l.map Prod.fst).eraseDups := by
  induction l using List.reverseRecOn with
  | nil => rfl
  | append_singleton l e ih =>
      rw [putEntries_concat, map_fst_putEntry, ih, List.map_append, List.map_singleton,
        eraseDups_concat]
      simp only [List.mem_eraseDups]

theorem nodup_putEntries (l : List (String × α)) : ((putEntries [] l).map Prod.fst).Nodup := by
  rw [map_fst_putEntries]
  exact nodup_eraseDups _

/-- Every key has the value that it was given last. -/
theorem lookup_of_mem_putEntries (mem : e ∈ putEntries [] l) : l.reverse.lookup e.1 = some e.2 := by
  induction l using List.reverseRecOn generalizing e with
  | nil => cases mem
  | append_singleton l f ih =>
      rw [putEntries_concat] at mem
      rw [List.reverse_concat, List.lookup_cons]
      rcases of_mem_putEntry (nodup_putEntries l) mem with rfl | ⟨mem, other⟩
      · rw [beq_self_eq_true]
      · rw [beq_false_of_ne other]
        exact ih mem

theorem mem_of_mem_putEntries (mem : e ∈ putEntries [] l) : e ∈ l :=
  List.mem_reverse.mp (mem_of_lookup (lookup_of_mem_putEntries mem))

/-- Distinct keys stay as they are. -/
theorem putEntries_of_nodup (distinct : (l.map Prod.fst).Nodup) : putEntries [] l = l := by
  induction l using List.reverseRecOn with
  | nil => rfl
  | append_singleton l e ih =>
      rw [List.map_append, List.map_singleton, List.nodup_append] at distinct
      have fresh : e.1 ∉ l.map Prod.fst := fun mem =>
        distinct.2.2 e.1 mem e.1 (List.mem_singleton_self e.1) rfl
      rw [putEntries_concat, ih distinct.1, putEntry_of_not_mem fresh]

end

end BodyCheck
