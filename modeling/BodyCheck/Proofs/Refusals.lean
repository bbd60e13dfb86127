import BodyCheck.Proofs.Rendering
import BodyCheck.Proofs.Traversal

/-!
# Checks without a source

A list of checks has a source exactly if every check is typed.  If not, the first check that is not
typed decides the error, and in a check of items the first item that is not
(`testSource_refuses_first`).  How the source is written does not matter for that, and neither does
anything behind the place of the error.

The error itself is decided by the declared kind (`Kind.refusal`): a kind with literals has been
given a value of another kind, and any other kind has no literals.
-/

namespace BodyCheck

/-! ## Values -/

/-- Why a value has no literal under a declared kind. -/
def Kind.refusal (kind : Kind) (v : Json) : LiteralError :=
  match kind with
  | .string | .number | .boolean => .mismatch kind v
  | .null | .object | .array => .unsupported kind

/-- The value of an item is of its declared kind, and that is no container. -/
def Item.IsTyped (item : Item) : Prop :=
  item.kind.isContainer = false ∧ item.value.kind = item.kind

/-- Where a value has no literal, the declared kind decides the error. -/
theorem literal_eq_error {kind : Kind} {v : Json} (h : ¬ (kind.HasLiteral ∧ v.kind = kind)) :
    literal kind v = .error (kind.refusal v) := by
  cases kind with
  | null | object | array => rfl
  -- The other kinds have literals, but for values of their own kind only.
  | string =>
      cases v with
      | string s => exact absurd ⟨⟨rfl, nofun⟩, rfl⟩ h
      | null | bool b | number n | array items | object entries => rfl
  | number =>
      cases v with
      | number n => exact absurd ⟨⟨rfl, nofun⟩, rfl⟩ h
      | null | bool b | string s | array items | object entries => rfl
  | boolean =>
      cases v with
      | bool b => exact absurd ⟨⟨rfl, nofun⟩, rfl⟩ h
      | null | number n | string s | array items | object entries => rfl

/-- A value has no literal exactly if its declared kind has none or is not its own. -/
theorem literal_eq_error_iff {kind : Kind} {v : Json} {e : LiteralError} :
    literal kind v = .error e ↔ ¬ (kind.HasLiteral ∧ v.kind = kind) ∧ kind.refusal v = e := by
  by_cases typed : kind.HasLiteral ∧ v.kind = kind
  · obtain ⟨known, rfl⟩ := typed
    obtain ⟨text, ht⟩ := literal_of_kind known
    simp [ht, known]
  · rw [literal_eq_error typed]
    simp [typed]

/-- Among items only null has a literal that it does not have elsewhere. -/
theorem itemLiteral_eq_error {item : Item} (h : ¬ item.IsTyped) :
    itemLiteral item.kind item.value = .error (item.kind.refusal item.value) := by
  unfold itemLiteral
  split
  · next kind value => exact absurd ⟨by rw [kind]; rfl, by rw [kind, value]; rfl⟩ h
  · exact literal_eq_error fun typed => h ⟨typed.1.1, typed.2⟩

/-- An item has a literal exactly if it is typed. -/
theorem exists_itemLiteral_iff {item : Item} :
    (∃ text, itemLiteral item.kind item.value = .ok text) ↔ item.IsTyped := by
  constructor
  · rintro ⟨text, h⟩
    by_contra untyped
    rw [itemLiteral_eq_error untyped] at h
    cases h
  · rintro ⟨scalar, own⟩
    rw [← own] at scalar ⊢
    exact itemLiteral_of_kind scalar

theorem itemLiteral_eq_error_iff {item : Item} {e : LiteralError} :
    itemLiteral item.kind item.value = .error e ↔
      ¬ item.IsTyped ∧ item.kind.refusal item.value = e := by
  by_cases typed : item.IsTyped
  · obtain ⟨text, ht⟩ := exists_itemLiteral_iff.mpr typed
    simp [ht, typed]
  · rw [itemLiteral_eq_error typed]
    simp [typed]

/-! ## Checks -/

/-- A check is refused because of its value, or because of the first of its items that is not
typed. -/
inductive Check.Refuses : Check → LiteralError → Prop where
  | value {path : String} {v : Json} {kind : Kind} :
      ¬ (kind.HasLiteral ∧ v.kind = kind) → Refuses (.value path v kind) (kind.refusal v)
  | items {path : String} {front back : List Item} {item : Item} :
      (∀ i ∈ front, i.IsTyped) → ¬ item.IsTyped →
      Refuses (.items path (front ++ item :: back)) (item.kind.refusal item.value)

theorem itemLiterals_eq_mapM (list : List Item) :
    itemLiterals list = list.mapM fun item => itemLiteral item.kind item.value := by
  induction list with
  | nil => rfl
  | cons item list ih => rw [itemLiterals, ih, List.mapM_cons]

/-- The clauses of checks are found one after the other, up to the first check that has none. -/
theorem checkClauses_eq_mapM (checks : List Check) :
    checkClauses checks = checks.mapM Check.clause := by
  induction checks with
  | nil => rfl
  | cons c checks ih => rw [checkClauses, ih, List.mapM_cons]

/-- The first item that is not typed decides the error among items. -/
theorem itemLiterals_eq_error_iff {list : List Item} {e : LiteralError} :
    itemLiterals list = .error e ↔ ∃ front item back, list = front ++ item :: back ∧
      (∀ i ∈ front, i.IsTyped) ∧ ¬ item.IsTyped ∧ item.kind.refusal item.value = e := by
  rw [itemLiterals_eq_mapM, mapM_eq_error_iff]
  simp only [exists_itemLiteral_iff, itemLiteral_eq_error_iff]

/-- A check has no clause exactly if it is refused, and the error is that of the refusal. -/
theorem Check.clause_eq_error_iff {c : Check} {e : LiteralError} :
    c.clause = .error e ↔ c.Refuses e := by
  cases c with
  | value path v kind =>
      have fails : (Check.value path v kind).clause = .error e ↔ literal kind v = .error e := by
        rw [clause, matcher]
        cases literal kind v <;> simp [bind, Except.bind, pure, Except.pure]
      rw [fails, literal_eq_error_iff]
      constructor
      · rintro ⟨untyped, rfl⟩
        exact .value untyped
      · intro refused
        cases refused with
        | value untyped => exact ⟨untyped, rfl⟩
  | null path => constructor <;> rintro ⟨⟩
  | items path list =>
      have fails : (Check.items path list).clause = .error e ↔ itemLiterals list = .error e := by
        rw [clause, matcher]
        cases itemLiterals list <;> simp [bind, Except.bind, pure, Except.pure]
      rw [fails, itemLiterals_eq_error_iff]
      constructor
      · rintro ⟨front, item, back, rfl, typed, untyped, rfl⟩
        exact .items typed untyped
      · intro refused
        cases refused with
        | items typed untyped => exact ⟨_, _, _, rfl, typed, untyped, rfl⟩
  | empty path => constructor <;> rintro ⟨⟩

/-- A check that is not typed is refused with some error. -/
theorem Check.exists_refuses {c : Check} (untyped : ¬ c.IsTyped) : ∃ e, c.Refuses e := by
  cases c with
  | value path v kind => exact ⟨_, .value untyped⟩
  | null path => exact absurd trivial untyped
  | items path list =>
      rcases all_ok_or_exists_first (fun item => itemLiteral item.kind item.value) list with
        all | ⟨front, item, back, e, rfl, typed, fails⟩
      · exact absurd (fun item mem => exists_itemLiteral_iff.mp (all item mem)) untyped
      · exact ⟨_, .items (fun i mem => exists_itemLiteral_iff.mp (typed i mem))
          (itemLiteral_eq_error_iff.mp fails).1⟩
  | empty path => exact absurd trivial untyped

theorem Check.exists_clause_iff {c : Check} : (∃ text, c.clause = .ok text) ↔ c.IsTyped := by
  refine ⟨?_, clause_of_isTyped⟩
  rintro ⟨text, h⟩
  by_contra untyped
  obtain ⟨e, refused⟩ := exists_refuses untyped
  rw [clause_eq_error_iff.mpr refused] at h
  cases h

/-! ## Sources -/

theorem testSource_eq_error_iff {options : SourceOptions} {checks : List Check}
    {e : LiteralError} : testSource options checks = .error e ↔ checkClauses checks = .error e := by
  rw [testSource, clauses]
  cases checkClauses checks <;> simp [bind, Except.bind, pure, Except.pure]

/-- The request, the layout and the imports never stand in the way of a source. -/
theorem exists_testSource_iff {options : SourceOptions} {checks : List Check} :
    (∃ text, testSource options checks = .ok text) ↔ ∀ c ∈ checks, c.IsTyped := by
  refine ⟨?_, testSource_of_isTyped options⟩
  rintro ⟨text, h⟩
  simp only [← Check.exists_clause_iff]
  rw [← exists_mapM_eq_ok_iff, ← checkClauses_eq_mapM]
  cases outcome : checkClauses checks with
  | ok texts => exact ⟨texts, rfl⟩
  | error e =>
      rw [testSource_eq_error_iff.mpr outcome] at h
      cases h

/-- Checks have a source exactly if all of them are typed.  Otherwise the first one that is not
decides the error, and among its items the first one that is not. -/
theorem testSource_refuses_first (options : SourceOptions) (checks : List Check) :
    ((∃ text, testSource options checks = .ok text) ↔ ∀ c ∈ checks, c.IsTyped) ∧
    ∀ e, testSource options checks = .error e ↔ ∃ before c after,
      checks = before ++ c :: after ∧ (∀ b ∈ before, b.IsTyped) ∧ c.Refuses e := by
  refine ⟨exists_testSource_iff, fun e => ?_⟩
  rw [testSource_eq_error_iff, checkClauses_eq_mapM, mapM_eq_error_iff]
  simp only [Check.exists_clause_iff, Check.clause_eq_error_iff]

example : testSource {} [.null "a", .items "b" [⟨.null, .null⟩, ⟨.null, .number⟩, ⟨.null, .array⟩],
    .value "c" .null .null] = .error (.mismatch .number .null) := by decide

end BodyCheck
