import BodyCheck.Compile
import BodyCheck.Proofs.Folding

/-!
# Sources for all documents

A source is refused only because of a literal.  A check whose values are all of their declared
kinds, and of kinds that have literals, is `Check.IsTyped`; a list of such checks has a source
(`testSource_of_isTyped`).

The checks of fields are typed as soon as each leaf carries a value of its own kind
(`Check.isTyped_of_mem_ofFields`).  The order of the fields, their keys and their parents do not
matter: null is split off by its kind in the first pass and has a literal as an item in the second,
and no pass makes a value of a container.  The fields of a document are of this form, so only the
root decides whether the document has a source.
-/

namespace BodyCheck

/-! ## Typed checks -/

/-- Values of the kind stand alone in a check. -/
def Kind.HasLiteral (kind : Kind) : Prop := kind.isContainer = false ∧ kind ≠ .null

/-- The values in a check are of their declared kinds, and these have literals where they stand. -/
def Check.IsTyped : Check → Prop
  | .value _ v kind => kind.HasLiteral ∧ v.kind = kind
  | .null _ => True
  | .items _ list => ∀ item ∈ list, item.kind.isContainer = false ∧ item.value.kind = item.kind
  | .empty _ => True

/-- A field is no leaf, or it carries a value of its own kind. -/
def Field.IsTyped (f : Field) : Prop :=
  f.isContainer = true ∨ f.value.map Json.kind = some f.kind

instance (f : Field) : Decidable f.IsTyped :=
  inferInstanceAs (Decidable (f.isContainer = true ∨ f.value.map Json.kind = some f.kind))

theorem Field.IsTyped.exists_value {f : Field} (typed : f.IsTyped)
    (leaf : f.isContainer = false) : ∃ v, f.value = some v ∧ v.kind = f.kind := by
  rcases typed with container | own
  · rw [leaf] at container
    cases container
  · exact Option.map_eq_some_iff.mp own

/-! ## Sources of typed checks -/

theorem literal_of_kind {v : Json} (h : v.kind.HasLiteral) :
    ∃ text, literal v.kind v = .ok text := by
  cases v with
  | null => exact absurd rfl h.2
  | bool b => exact ⟨_, rfl⟩
  | number n => exact ⟨_, rfl⟩
  | string s => exact ⟨_, rfl⟩
  | array items => cases h.1
  | object entries => cases h.1

/-- As an item null has a literal too. -/
theorem itemLiteral_of_kind {v : Json} (scalar : v.kind.isContainer = false) :
    ∃ text, itemLiteral v.kind v = .ok text := by
  cases v with
  | null | bool b | number n | string s => exact ⟨_, rfl⟩
  | array items => cases scalar
  | object entries => cases scalar

theorem itemLiterals_of_isTyped :
    ∀ {list : List Item},
      (∀ item ∈ list, item.kind.isContainer = false ∧ item.value.kind = item.kind) →
      ∃ texts, itemLiterals list = .ok texts
  | [], _ => ⟨[], rfl⟩
  | item :: rest, typed => by
      rw [List.forall_mem_cons] at typed
      obtain ⟨⟨scalar, own⟩, typed_rest⟩ := typed
      rw [← own] at scalar
      obtain ⟨text, ht⟩ := itemLiteral_of_kind scalar
      obtain ⟨texts, hts⟩ := itemLiterals_of_isTyped typed_rest
      rw [own] at ht
      exact ⟨text :: texts, by rw [itemLiterals, ht, hts]; rfl⟩

theorem Check.clause_of_isTyped {c : Check} (typed : c.IsTyped) :
    ∃ text, c.clause = .ok text := by
  cases c with
  | value path v kind =>
      obtain ⟨known, rfl⟩ := typed
      obtain ⟨text, ht⟩ := literal_of_kind known
      exact ⟨_, by rw [clause, matcher, ht]; rfl⟩
  | null path => exact ⟨_, rfl⟩
  | items path list =>
      obtain ⟨texts, hts⟩ := itemLiterals_of_isTyped typed
      exact ⟨_, by rw [clause, matcher, hts]; rfl⟩
  | empty path => exact ⟨_, rfl⟩

theorem checkClauses_of_isTyped :
    ∀ {checks : List Check}, (∀ c ∈ checks, c.IsTyped) →
      ∃ texts, checkClauses checks = .ok texts
  | [], _ => ⟨[], rfl⟩
  | c :: rest, typed => by
      rw [List.forall_mem_cons] at typed
      obtain ⟨text, ht⟩ := Check.clause_of_isTyped typed.1
      obtain ⟨texts, hts⟩ := checkClauses_of_isTyped typed.2
      exact ⟨text :: texts, by rw [checkClauses, ht, hts]; rfl⟩

/-- Typed checks have a source with all options. -/
theorem testSource_of_isTyped (options : SourceOptions) {checks : List Check}
    (typed : ∀ c ∈ checks, c.IsTyped) : ∃ text, testSource options checks = .ok text := by
  obtain ⟨texts, hts⟩ := checkClauses_of_isTyped typed
  exact ⟨_, by rw [testSource, clauses, hts]; rfl⟩

/-! ## Checks of typed fields -/

theorem Field.isTyped_leafCheck {f : Field} (typed : f.IsTyped) (leaf : f.isContainer = false)
    (path : String) : (f.leafCheck path).IsTyped := by
  obtain ⟨v, value, own⟩ := typed.exists_value leaf
  have leaf_value : f.leafValue = v := by rw [leafValue, value]; rfl
  rw [leafCheck]
  split
  · trivial
  · next other => exact ⟨⟨leaf, other⟩, by rw [leaf_value]; exact own⟩

/-- The checks that are drafted for a typed field are typed. -/
theorem Field.isTyped_of_mem_draftsAt {f : Field} (typed : f.IsTyped) {checkEmpty : Bool}
    {occupied : List String} {path : String} {d : Draft}
    (hd : d ∈ f.draftsAt checkEmpty occupied path) : d.check.IsTyped := by
  rw [draftsAt] at hd
  split at hd
  · split at hd
    · rw [List.mem_singleton.mp hd]
      trivial
    · cases hd
  · next leaf =>
      rw [List.mem_singleton.mp hd]
      exact isTyped_leafCheck typed (by simpa using leaf) path

theorem isTyped_of_mem_keptChecks {o : CheckOptions} {fields : List Field}
    (typed : ∀ f ∈ fields, f.IsTyped) {c : Check} (hc : c ∈ keptChecks o fields) : c.IsTyped := by
  obtain ⟨d, hd, rfl⟩ := List.mem_map.mp hc
  have drafted := List.mem_of_mem_filter hd
  rw [drafts, draftsFrom_eq, List.mem_flatMap] at drafted
  obtain ⟨x, hx, at_x⟩ := drafted
  have field : x.2 ∈ fields := by
    rw [← Containers.none.map_snd_placed fields]
    exact List.mem_map.mpr ⟨x, hx, rfl⟩
  exact Field.isTyped_of_mem_draftsAt (typed x.2 field) at_x

/-- The items found anywhere are values of typed leaves, under the kinds of these. -/
theorem isTyped_of_mem_itemsAt {fields : List Field} (typed : ∀ f ∈ fields, f.IsTyped)
    {path : String} {item : Item} (h : item ∈ itemsAt path fields) :
    item.kind.isContainer = false ∧ item.value.kind = item.kind := by
  obtain ⟨f, hf, at_f⟩ := List.mem_filterMap.mp h
  rw [Field.itemAt] at at_f
  split at at_f
  · next leaf =>
      cases at_f
      have scalar : f.isContainer = false := by simpa using (Bool.and_eq_true_iff.mp leaf).1
      obtain ⟨v, value, own⟩ := (typed f hf).exists_value scalar
      exact ⟨scalar, by rw [Field.leafValue, value]; exact own⟩
  · cases at_f

theorem isTyped_of_mem_foldedChecks {o : CheckOptions} {fields : List Field}
    (typed : ∀ f ∈ fields, f.IsTyped) {c : Check} (hc : c ∈ foldedChecks o fields) :
    c.IsTyped := by
  obtain ⟨path, rfl⟩ := exists_of_mem_foldedChecks hc
  intro item h
  exact isTyped_of_mem_itemsAt typed h

/-- The checks of typed fields are typed, in whatever order the fields stand. -/
theorem Check.isTyped_of_mem_ofFields {o : CheckOptions} {fields : List Field}
    (typed : ∀ f ∈ fields, f.IsTyped) {c : Check} (hc : c ∈ Check.ofFields o fields) :
    c.IsTyped := by
  rw [Check.ofFields_eq] at hc
  rcases List.mem_append.mp hc with kept | folded
  · exact isTyped_of_mem_keptChecks typed kept
  · exact isTyped_of_mem_foldedChecks typed folded

/-! ## Sources of documents -/

/-- The fields of a document are typed. -/
theorem Json.isTyped_fields (v : Json) : ∀ f ∈ v.fields none, f.IsTyped := by
  intro f hf
  rw [fields_none] at hf
  obtain ⟨n, -, rfl⟩ := List.mem_map.mp hf
  cases scalar : n.value.isContainer with
  | true => exact .inl scalar
  | false =>
      right
      simp [Node.field, Field.ofValue, scalar]

/-- A document whose root is a container has a source. -/
theorem compileValue_of_isContainer (options : Options) {v : Json} (container : v.isContainer) :
    ∃ text, compileValue options v = .ok text := by
  have typed : ∀ c ∈ Check.ofJson options.checks v, c.IsTyped :=
    fun c hc => Check.isTyped_of_mem_ofFields v.isTyped_fields hc
  obtain ⟨text, ht⟩ := testSource_of_isTyped options.source typed
  refine ⟨text, ?_⟩
  rw [compileValue, checksOf, if_pos container]
  show (testSource options.source _).mapError _ = _
  rw [ht]
  rfl

/-- A scalar is refused as a root, with its kind. -/
theorem compileValue_of_isScalar (options : Options) {v : Json} (scalar : v.isContainer = false) :
    compileValue options v = .error (.unsupportedRoot v.kind) := by
  rw [compileValue, checksOf, scalar]
  rfl

/-- The checks of typed fields have a source with all options.  So a document has a source exactly
if its root is a container; a scalar is refused with its kind, and no literal is ever missing. -/
theorem exists_testSource_and_compileValue_iff :
    (∀ fields : List Field, (∀ f ∈ fields, f.IsTyped) → ∀ (o : CheckOptions) (s : SourceOptions),
      ∃ text, testSource s (Check.ofFields o fields) = .ok text) ∧
    (∀ (v : Json) (options : Options),
      ((∃ text, compileValue options v = .ok text) ↔ v.isContainer) ∧
      (v.isContainer = false → compileValue options v = .error (.unsupportedRoot v.kind)) ∧
      ∀ e, compileValue options v ≠ .error (.literal e)) := by
  constructor
  · intro fields typed o s
    exact testSource_of_isTyped s fun c hc => Check.isTyped_of_mem_ofFields typed hc
  · intro v options
    cases root : v.isContainer with
    | true =>
        obtain ⟨text, ht⟩ := compileValue_of_isContainer options root
        rw [ht]
        exact ⟨⟨fun _ => rfl, fun _ => ⟨text, rfl⟩⟩, nofun, nofun⟩
    | false =>
        rw [compileValue_of_isScalar options root]
        refine ⟨⟨?_, nofun⟩, fun _ => rfl, nofun⟩
        rintro ⟨text, h⟩
        cases h

/-- An element in front of its array, a null and a leaf without a known parent. -/
theorem exists_testSource_out_of_order :
    let fields : List Field := [⟨some "a", "[0]", .null, some .null⟩, ⟨none, "a", .array, none⟩,
      ⟨some "b", "k", .string, some (.string "x")⟩, ⟨none, "", .object, none⟩]
    (∀ f ∈ fields, f.IsTyped) ∧
      ∃ text, testSource {} (Check.ofFields ⟨true, true⟩ fields) = .ok text := by
  intro fields
  have typed : ∀ f ∈ fields, f.IsTyped := by decide
  exact ⟨typed, exists_testSource_and_compileValue_iff.1 fields typed ⟨true, true⟩ {}⟩

end BodyCheck
