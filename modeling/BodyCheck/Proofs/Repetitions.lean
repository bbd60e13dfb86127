import Mathlib.Data.List.Nodup

/-!
# Lists without repetitions

`List.eraseDups` keeps the first occurrence of every element.  Its laws go by an induction of their
own, since the copies of the first element are erased before the rest is looked at
(`eraseDupsInduction`).  Seen from the other end, a last element is kept if it is new
(`eraseDups_concat`).
-/

namespace BodyCheck

/-- An element is the only one with a property, if no other element has the property along with
it. -/
theorem filter_eq_singleton {α : Type} {p : α → Bool} {a : α} (own : p a) :
    ∀ {l : List α}, l.Pairwise (fun x y => p x → p y → x ≠ a ∧ y ≠ a) → a ∈ l → l.filter p = [a]
  | b :: l, alone, h => by
      rw [List.pairwise_cons] at alone
      cases List.mem_cons.mp h with
      | inl here =>
          subst here
          have rest : l.filter p = [] := by
            rw [List.filter_eq_nil_iff]
            intro x hx at_x
            exact (alone.1 x hx own at_x).1 rfl
          rw [List.filter_cons, if_pos own, rest]
      | inr later =>
          have front : ¬ p b = true := fun at_b => (alone.1 a later at_b own).2 rfl
          rw [List.filter_cons, if_neg front, filter_eq_singleton own alone.2 later]

/-- What passes from a list without the copies of its first element to the list holds of all
lists.  Copies are erased in this order. -/
@[elab_as_elim]
theorem eraseDupsInduction {α : Type} [BEq α] {motive : List α → Prop} (nil : motive [])
    (cons : ∀ a rest, motive (rest.filter fun b => !b == a) → motive (a :: rest)) (l : List α) :
    motive l :=
  match l with
  | [] => nil
  | a :: rest => cons a rest (eraseDupsInduction nil cons _)
termination_by l.length
decreasing_by exact Nat.lt_succ_of_le (List.length_filter_le _ rest)

section

variable {α : Type} [BEq α] [LawfulBEq α]

/-- Without its copies no element is left twice. -/
theorem nodup_eraseDups (l : List α) : l.eraseDups.Nodup := by
  induction l using eraseDupsInduction with
  | nil => exact List.nodup_nil
  | cons a rest ih =>
      have fresh : a ∉ (rest.filter fun b => !b == a).eraseDups := by
        rw [List.mem_eraseDups, List.mem_filter]
        rintro ⟨-, other⟩
        rw [beq_self_eq_true] at other
        cases other
      rw [List.eraseDups_cons, List.nodup_cons]
      exact ⟨fresh, ih⟩

theorem eraseDups_of_nodup : ∀ {l : List α}, l.Nodup → l.eraseDups = l
  | [], _ => List.eraseDups_nil
  | a :: l, nodup => by
      rw [List.nodup_cons] at nodup
      have rest : l.filter (fun b => !b == a) = l := by
        rw [List.filter_eq_self]
        intro b hb
        have other : b ≠ a := by
          rintro rfl
          exact nodup.1 hb
        simpa using other
      rw [List.eraseDups_cons, rest, eraseDups_of_nodup nodup.2]

/-- It does not matter whether copies or other elements are dropped first. -/
theorem filter_eraseDups (p : α → Bool) (l : List α) :
    l.eraseDups.filter p = (l.filter p).eraseDups := by
  induction l using eraseDupsInduction with
  | nil => rfl
  | cons a rest ih =>
      rw [List.eraseDups_cons]
      by_cases own : p a
      · rw [List.filter_cons_of_pos own, List.filter_cons_of_pos own, List.eraseDups_cons, ih,
          List.filter_comm]
      · have others : (rest.filter fun b => !b == a).filter p = rest.filter p := by
          rw [List.filter_filter]
          refine List.filter_congr fun b _ => ?_
          rw [Bool.and_eq_left_iff_imp]
          intro other
          rw [Bool.not_eq_true', beq_eq_false_iff_ne]
          rintro rfl
          exact own other
        rw [List.filter_cons_of_neg own, List.filter_cons_of_neg own, ih, others]

/-- An injective function makes no new copies. -/
theorem eraseDups_map {β : Type} [BEq β] [LawfulBEq β] {f : α → β} (injective : f.Injective)
    (l : List α) : (l.map f).eraseDups = l.eraseDups.map f := by
  induction l using eraseDupsInduction with
  | nil => rfl
  | cons a rest ih =>
      have others : (rest.map f).filter (fun b => !b == f a) =
          (rest.filter fun b => !b == a).map f := by
        rw [List.filter_map]
        congr 1
        refine List.filter_congr fun b _ => ?_
        rw [Function.comp_apply, Bool.not_inj_iff, Bool.eq_iff_iff, beq_iff_eq, beq_iff_eq,
          injective.eq_iff]
      rw [List.map_cons, List.eraseDups_cons, List.eraseDups_cons, List.map_cons, others, ih]

/-- A last element is kept if it is new. -/
theorem eraseDups_concat (l : List α) (a : α) :
    (l ++ [a]).eraseDups = if a ∈ l then l.eraseDups else l.eraseDups ++ [a] := by
  rw [List.eraseDups_append, List.cons_removeAll, List.nil_removeAll]
  by_cases known : a ∈ l
  · simp [known]
  · simp [known, eraseDups_of_nodup (List.nodup_singleton a)]

end

end BodyCheck
