import Mathlib.Data.List.Forall2

/-!
# Lists treated one by one

Something that can fail is done with the elements of a list, one after the other, up to the first
one that it fails for.  So it succeeds on the list exactly if it succeeds on every element, and it
fails with the error of the first element that it fails for, whatever comes behind.
-/

namespace BodyCheck

variable {ε α β : Type} {f : α → Except ε β}

/-! ## One step after the other -/

@[simp] theorem ok_bind (a : α) (f : α → Except ε β) : (Except.ok a >>= f) = f a := rfl

@[simp] theorem error_bind (e : ε) (f : α → Except ε β) : (Except.error e >>= f) = .error e := rfl

@[simp] theorem mapError_ok {ε' : Type} (wrap : ε → ε') (a : α) :
    (Except.ok a).mapError wrap = .ok a := rfl

@[simp] theorem mapError_error {ε' : Type} (wrap : ε → ε') (e : ε) :
    (Except.error e : Except ε α).mapError wrap = .error (wrap e) := rfl

theorem mapError_eq_ok_iff {ε' : Type} {wrap : ε → ε'} {x : Except ε α} {a : α} :
    x.mapError wrap = .ok a ↔ x = .ok a := by
  cases x <;> simp

/-- Two steps succeed only if both do. -/
theorem exists_of_bind_eq_ok {x : Except ε α} {b : β} (h : x >>= f = .ok b) :
    ∃ a, x = .ok a ∧ f a = .ok b := by
  cases x with
  | error e => cases h
  | ok a => exact ⟨a, rfl, h⟩

theorem exists_of_map_eq_ok {x : Except ε α} {g : α → β} {b : β} (h : x.map g = .ok b) :
    ∃ a, x = .ok a ∧ g a = b := by
  cases x with
  | error e => cases h
  | ok a => exact ⟨a, rfl, Except.ok.inj h⟩

/-! ## All elements of a list -/

theorem mapM_cons_of_ok {x : α} {b : β} (h : f x = .ok b) (xs : List α) :
    (x :: xs).mapM f = (xs.mapM f).map (b :: ·) := by
  rw [List.mapM_cons, h]
  cases xs.mapM f <;> rfl

theorem mapM_cons_of_error {x : α} {e : ε} (h : f x = .error e) (xs : List α) :
    (x :: xs).mapM f = .error e := by
  rw [List.mapM_cons, h]
  rfl

/-- Either all elements succeed, or there is a first one that fails. -/
theorem all_ok_or_exists_first (f : α → Except ε β) : ∀ xs : List α,
    (∀ x ∈ xs, ∃ b, f x = .ok b) ∨ ∃ before x after e, xs = before ++ x :: after ∧
      (∀ y ∈ before, ∃ b, f y = .ok b) ∧ f x = .error e
  | [] => .inl nofun
  | x :: xs => by
      cases head : f x with
      | error e => exact .inr ⟨[], x, xs, e, rfl, nofun, head⟩
      | ok b =>
          rcases all_ok_or_exists_first f xs with all | ⟨before, y, after, e, rfl, succeed, fails⟩
          · exact .inl (List.forall_mem_cons.mpr ⟨⟨b, head⟩, all⟩)
          · exact .inr ⟨x :: before, y, after, e, rfl,
              List.forall_mem_cons.mpr ⟨⟨b, head⟩, succeed⟩, fails⟩

/-- What stands behind the first failing element does not matter. -/
theorem mapM_eq_error_of_first {x : α} {e : ε} (fails : f x = .error e) (after : List α) :
    ∀ {before : List α}, (∀ y ∈ before, ∃ b, f y = .ok b) →
      (before ++ x :: after).mapM f = .error e
  | [], _ => mapM_cons_of_error fails after
  | y :: before, succeed => by
      obtain ⟨⟨b, hb⟩, succeed⟩ := List.forall_mem_cons.mp succeed
      rw [List.cons_append, mapM_cons_of_ok hb, mapM_eq_error_of_first fails after succeed]
      rfl

theorem exists_mapM_eq_ok_of_all :
    ∀ {xs : List α}, (∀ x ∈ xs, ∃ b, f x = .ok b) → ∃ bs, xs.mapM f = .ok bs
  | [], _ => ⟨[], rfl⟩
  | x :: xs, succeed => by
      obtain ⟨⟨b, hb⟩, succeed⟩ := List.forall_mem_cons.mp succeed
      obtain ⟨bs, hbs⟩ := exists_mapM_eq_ok_of_all succeed
      exact ⟨b :: bs, by rw [mapM_cons_of_ok hb, hbs]; rfl⟩

/-- The results stand in the order of the elements. -/
theorem forall₂_of_mapM_eq_ok :
    ∀ {xs : List α} {bs : List β}, xs.mapM f = .ok bs → List.Forall₂ (fun x b => f x = .ok b) xs bs
  | [], bs, h => by
      cases h
      exact .nil
  | x :: xs, bs, h => by
      cases head : f x with
      | error e =>
          rw [mapM_cons_of_error head] at h
          cases h
      | ok b =>
          rw [mapM_cons_of_ok head] at h
          obtain ⟨bs, tail, rfl⟩ := exists_of_map_eq_ok h
          exact .cons head (forall₂_of_mapM_eq_ok tail)

/-- The results of a list are those of its elements, one for one. -/
theorem mapM_eq_ok_iff {xs : List α} {bs : List β} :
    xs.mapM f = .ok bs ↔ List.Forall₂ (fun x b => f x = .ok b) xs bs := by
  refine ⟨forall₂_of_mapM_eq_ok, fun each => ?_⟩
  induction each with
  | nil => rfl
  | cons head _ ih =>
      rw [mapM_cons_of_ok head, ih]
      rfl

/-- A list succeeds exactly if all its elements do. -/
theorem exists_mapM_eq_ok_iff {xs : List α} :
    (∃ bs, xs.mapM f = .ok bs) ↔ ∀ x ∈ xs, ∃ b, f x = .ok b := by
  refine ⟨?_, exists_mapM_eq_ok_of_all⟩
  rintro ⟨bs, h⟩
  rcases all_ok_or_exists_first f xs with all | ⟨before, x, after, e, rfl, succeed, fails⟩
  · exact all
  · rw [mapM_eq_error_of_first fails after succeed] at h
    cases h

theorem mapM_append_eq_ok {xs ys : List α} {bs cs : List β} (hxs : xs.mapM f = .ok bs)
    (hys : ys.mapM f = .ok cs) : (xs ++ ys).mapM f = .ok (bs ++ cs) := by
  rw [List.mapM_append, hxs, hys]
  rfl

/-- A list in two parts has its results in two parts. -/
theorem exists_mapM_of_append {xs ys : List α} {ds : List β} (h : (xs ++ ys).mapM f = .ok ds) :
    ∃ bs cs, xs.mapM f = .ok bs ∧ ys.mapM f = .ok cs ∧ ds = bs ++ cs := by
  have all := exists_mapM_eq_ok_iff.mp ⟨ds, h⟩
  obtain ⟨bs, hbs⟩ := exists_mapM_eq_ok_of_all fun x mem => all x (List.mem_append_left ys mem)
  obtain ⟨cs, hcs⟩ := exists_mapM_eq_ok_of_all fun y mem => all y (List.mem_append_right xs mem)
  rw [mapM_append_eq_ok hbs hcs] at h
  cases h
  exact ⟨bs, cs, hbs, hcs, rfl⟩

/-- A list fails exactly with the error of the first element that fails. -/
theorem mapM_eq_error_iff {xs : List α} {e : ε} :
    xs.mapM f = .error e ↔ ∃ before x after, xs = before ++ x :: after ∧
      (∀ y ∈ before, ∃ b, f y = .ok b) ∧ f x = .error e := by
  constructor
  · intro h
    rcases all_ok_or_exists_first f xs with all | ⟨before, x, after, e', rfl, succeed, fails⟩
    · obtain ⟨bs, hbs⟩ := exists_mapM_eq_ok_of_all all
      rw [hbs] at h
      cases h
    · rw [mapM_eq_error_of_first fails after succeed] at h
      cases h
      exact ⟨before, x, after, rfl, succeed, fails⟩
  · rintro ⟨before, x, after, rfl, succeed, fails⟩
    exact mapM_eq_error_of_first fails after succeed

/-- Errors can be reworded afterwards. -/
theorem mapM_mapError_eq_error_iff {ε' : Type} {wrap : ε → ε'} {xs : List (Except ε α)} {e : ε'} :
    xs.mapM (·.mapError wrap) = .error e ↔ ∃ front reason back,
      xs = front ++ .error reason :: back ∧ (∀ x ∈ front, ∃ a, x = .ok a) ∧ wrap reason = e := by
  have fails {x : Except ε α} : x.mapError wrap = .error e ↔
      ∃ reason, x = .error reason ∧ wrap reason = e := by
    cases x <;> simp
  simp only [mapM_eq_error_iff, mapError_eq_ok_iff, fails]
  constructor
  · rintro ⟨front, _, back, rfl, before, reason, rfl, wrapped⟩
    exact ⟨front, reason, back, rfl, before, wrapped⟩
  · rintro ⟨front, reason, back, rfl, before, wrapped⟩
    exact ⟨front, _, back, rfl, before, reason, rfl, wrapped⟩

/-! ## Lists that correspond -/

section

variable {κ γ : Type} {r : α → β → Prop} {as : List α} {bs : List β}

/-- Every element of the first list has a partner in the second one. -/
theorem exists_of_mem_left (h : List.Forall₂ r as bs) {a : α} (mem : a ∈ as) :
    ∃ b ∈ bs, r a b := by
  induction h with
  | nil => cases mem
  | cons head _ ih =>
      rcases List.mem_cons.mp mem with rfl | mem
      · exact ⟨_, List.mem_cons_self .., head⟩
      · obtain ⟨b, here, related⟩ := ih mem
        exact ⟨b, List.mem_cons_of_mem _ here, related⟩

theorem exists_of_mem_right (h : List.Forall₂ r as bs) {b : β} (mem : b ∈ bs) :
    ∃ a ∈ as, r a b :=
  exists_of_mem_left h.flip mem

/-- Entries that correspond key by key have the same keys. -/
theorem map_fst_eq_of_forall₂ {entries : List (κ × β)} {others : List (κ × γ)}
    (h : List.Forall₂ (fun e f => e.1 = f.1) entries others) :
    entries.map Prod.fst = others.map Prod.fst := by
  rwa [← List.forall₂_eq_eq_eq, List.forall₂_map_left_iff, List.forall₂_map_right_iff]

end

/-! ## Places in a list -/

theorem exists_eq_ok_of_ne_error {x : Except ε α} (h : ∀ e, x ≠ .error e) : ∃ a, x = .ok a := by
  cases x with
  | error e => exact absurd rfl (h e)
  | ok a => exact ⟨a, rfl⟩

/-- A list fails with the error at a place if nothing fails at an earlier one. -/
theorem mapM_eq_error_of_getElem? {xs : List α} {k : ℕ} {x : α} {e : ε} (place : xs[k]? = some x)
    (fails : f x = .error e) (earlier : ∀ j < k, ∀ y e', xs[j]? = some y → f y ≠ .error e') :
    xs.mapM f = .error e := by
  obtain ⟨bound, rfl⟩ := List.getElem?_eq_some_iff.mp place
  refine mapM_eq_error_iff.mpr ⟨xs.take k, xs[k], xs.drop (k + 1), ?_, fun y mem => ?_, fails⟩
  · rw [← List.drop_eq_getElem_cons bound, List.take_append_drop]
  · obtain ⟨j, hj, rfl⟩ := List.mem_take_iff_getElem.mp mem
    have before : j < k := Nat.lt_of_lt_of_le hj (Nat.min_le_left k _)
    exact exists_eq_ok_of_ne_error fun e' => earlier j before _ e' (List.getElem?_eq_getElem _)

/-- A list succeeds if nothing fails at any place. -/
theorem exists_mapM_eq_ok_of_getElem? {xs : List α}
    (h : ∀ (k : ℕ) x e, xs[k]? = some x → f x ≠ .error e) : ∃ bs, xs.mapM f = .ok bs := by
  refine exists_mapM_eq_ok_of_all fun x mem => exists_eq_ok_of_ne_error fun e => ?_
  obtain ⟨k, place⟩ := List.mem_iff_getElem?.mp mem
  exact h k x e place

/-- The result at a place is that of the element there. -/
theorem getElem?_of_mapM_eq_ok {xs : List α} {bs : List β} (h : xs.mapM f = .ok bs) (k : ℕ)
    (b : β) : bs[k]? = some b ↔ ∃ x, xs[k]? = some x ∧ f x = .ok b := by
  obtain ⟨length, each⟩ := List.forall₂_iff_get.mp (forall₂_of_mapM_eq_ok h)
  simp only [List.getElem?_eq_some_iff]
  constructor
  · rintro ⟨bound, rfl⟩
    exact ⟨xs[k], ⟨length ▸ bound, rfl⟩, each k (length ▸ bound) bound⟩
  · rintro ⟨x, ⟨bound, rfl⟩, result⟩
    have there : f xs[k] = .ok bs[k] := each k bound (length ▸ bound)
    exact ⟨length ▸ bound, Except.ok.inj (there.symm.trans result)⟩

/-- Outcomes that succeed together are known by their values. -/
theorem eq_map_ok_of_mapM_id {xs : List (Except ε α)} {as : List α} (h : xs.mapM id = .ok as) :
    xs = as.map .ok := by
  have same : List.Forall₂ Eq xs (as.map .ok) :=
    List.forall₂_map_right_iff.mpr (forall₂_of_mapM_eq_ok h)
  rwa [List.forall₂_eq_eq_eq] at same

end BodyCheck
