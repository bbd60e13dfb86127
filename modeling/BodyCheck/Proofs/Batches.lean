import BodyCheck.Command.Run
import BodyCheck.Proofs.Rendering
import BodyCheck.Proofs.Traversal

/-!
# Batches

What is shown for several documents is put together from what each of them is given on its own
(`testBatch_eq_blocks`).  The block of a document is decided by the document and the options:
neither the documents around it nor its place among them matter, and equal labels are not merged.
-/

namespace BodyCheck

/-! ## Results -/

section

variable {α : Type} {f : Json → Except CompileError α} {wrap : String → CompileError → RunError}

/-- The result for one document, under its label. -/
def resultOf (f : Json → Except CompileError α) (wrap : String → CompileError → RunError)
    (d : Labelled Json) : Except RunError (Labelled α) :=
  ((f d.content).mapError (wrap d.label)).map (Labelled.mk d.label)

/-- A result stands under the label of its document. -/
theorem resultOf_eq_ok_iff {d : Labelled Json} {r : Labelled α} :
    resultOf f wrap d = .ok r ↔ r.label = d.label ∧ f d.content = .ok r.content := by
  obtain ⟨label, content⟩ := r
  rw [resultOf]
  cases f d.content <;> simp [Except.map, eq_comm]

/-- An error names the label of its document. -/
theorem resultOf_eq_error_iff {d : Labelled Json} {e : RunError} :
    resultOf f wrap d = .error e ↔
      ∃ reason, f d.content = .error reason ∧ e = wrap d.label reason := by
  rw [resultOf]
  cases f d.content <;> simp [Except.map, eq_comm]

/-- Documents are treated one after the other, each for itself. -/
theorem perDocument_eq_mapM (docs : List (Labelled Json)) :
    perDocument f wrap docs = docs.mapM (resultOf f wrap) := by
  induction docs with
  | nil => rfl
  | cons d docs ih =>
      rw [perDocument, ih, List.mapM_cons, resultOf]
      cases (f d.content).mapError (wrap d.label) <;> rfl

theorem perDocument_eq_ok {g : Json → α} :
    ∀ {docs : List (Labelled Json)}, (∀ d ∈ docs, f d.content = .ok (g d.content)) →
      perDocument f wrap docs = .ok (docs.map fun d => ⟨d.label, g d.content⟩)
  | [], _ => rfl
  | d :: docs, succeed => by
      obtain ⟨first, succeed⟩ := List.forall_mem_cons.mp succeed
      rw [perDocument, first, perDocument_eq_ok succeed]
      rfl

/-- A function on documents that has no result for scalars, and one for everything else. -/
def RefusesScalars (f : Json → Except CompileError α) : Prop :=
  ∀ v reason, f v = .error reason ↔ v.isContainer = false ∧ reason = .unsupportedRoot v.kind

/-- A document is refused exactly if its root is a scalar, and the kind of the root is the reason.
-/
theorem RefusesScalars.resultOf_eq_error_iff (refuses : RefusesScalars f) {d : Labelled Json}
    {e : RunError} : resultOf f wrap d = .error e ↔
      d.content.isContainer = false ∧ e = wrap d.label (.unsupportedRoot d.content.kind) := by
  rw [BodyCheck.resultOf_eq_error_iff]
  constructor
  · rintro ⟨reason, refused, rfl⟩
    obtain ⟨scalar, rfl⟩ := (refuses _ _).mp refused
    exact ⟨scalar, rfl⟩
  · rintro ⟨scalar, rfl⟩
    exact ⟨_, (refuses _ _).mpr ⟨scalar, rfl⟩, rfl⟩

/-- Documents without a scalar among them have one result each, in their order. -/
theorem RefusesScalars.exists_results (refuses : RefusesScalars f)
    (wrap : String → CompileError → RunError) {docs : List (Labelled Json)}
    (containers : ∀ d ∈ docs, d.content.isContainer) :
    ∃ results, docs.mapM (resultOf f wrap) = .ok results ∧
      List.Forall₂ (fun d r => r.label = d.label ∧ f d.content = .ok r.content) docs results := by
  have all : ∃ results, docs.mapM (resultOf f wrap) = .ok results := by
    refine exists_mapM_eq_ok_of_all fun d mem => exists_eq_ok_of_ne_error fun e fails => ?_
    have scalar := (refuses.resultOf_eq_error_iff.mp fails).1
    rw [containers d mem] at scalar
    cases scalar
  obtain ⟨results, each⟩ := all
  exact ⟨results, each, (forall₂_of_mapM_eq_ok each).imp fun _ _ => resultOf_eq_ok_iff.mp⟩

end

/-- Every document whose root is a container has a test. -/
theorem refusesScalars_compileValue (options : Options) :
    RefusesScalars (compileValue options) := by
  intro v reason
  cases root : v.isContainer with
  | true =>
      obtain ⟨text, ht⟩ := compileValue_of_isContainer options root
      simp [ht]
  | false => simp [compileValue_of_isScalar options root, eq_comm]

theorem refusesScalars_checksOf (options : CheckOptions) : RefusesScalars (checksOf options) := by
  intro v reason
  rw [checksOf]
  cases v.isContainer <;> simp [eq_comm]

/-- Tests are shown only if every document has one. -/
theorem testBatch_eq_map (options : Options) (docs : List (Labelled Json)) :
    testBatch options docs =
      (docs.mapM (resultOf (compileValue options) .notCompiled)).map showSources := by
  rw [testBatch, perDocument_eq_mapM]
  cases docs.mapM (resultOf (compileValue options) .notCompiled) <;> rfl

/-- Checks are shown only if every document has some list of them. -/
theorem checkBatch_eq_map (options : Options) (docs : List (Labelled Json)) :
    checkBatch options docs =
      (docs.mapM (resultOf (checksOf options.checks) .notAnalyzed)).map showChecks := by
  rw [checkBatch, perDocument_eq_mapM]
  cases docs.mapM (resultOf (checksOf options.checks) .notAnalyzed) <;> rfl

/-! ## Blocks -/

/-- Several tests stand under their labels, also if the labels are the same. -/
theorem showSources_of_length {ds : List (Labelled String)} (several : 2 ≤ ds.length) :
    showSources ds = "\n\n".intercalate (ds.map labelledSource) := by
  match ds, several with
  | _ :: _ :: _, _ => rfl

theorem showChecks_of_length {ds : List (Labelled (List Check))} (several : 2 ≤ ds.length) :
    showChecks ds = (Json.array (ds.map labelledChecks)).prettyText := by
  match ds, several with
  | _ :: _ :: _, _ => rfl

theorem checksOf_of_isContainer (options : CheckOptions) {v : Json} (container : v.isContainer) :
    checksOf options v = .ok (Check.ofJson options v) :=
  if_pos container

/-- There is one test for every document whose root is a container, and one list of checks.  A
single document is given its test or the bare list of its checks.  Several are given one block each,
which holds the label of the document and its test or its checks, in the order of the documents. -/
theorem testBatch_eq_blocks (options : Options) :
    ∃ test : Json → String,
      (∀ v, v.isContainer → compileValue options v = .ok (test v)) ∧
      (∀ d : Labelled Json, d.content.isContainer →
        testBatch options [d] = .ok (test d.content) ∧
        checkBatch options [d] = .ok (Json.array
          ((Check.ofJson options.checks d.content).map Check.toJson)).prettyText) ∧
      ∀ docs : List (Labelled Json), 2 ≤ docs.length → (∀ d ∈ docs, d.content.isContainer) →
        testBatch options docs = .ok ("\n\n".intercalate
          (docs.map fun d => "// " ++ d.label ++ "\n" ++ test d.content)) ∧
        checkBatch options docs = .ok (Json.array (docs.map fun d =>
          .object [("source", .string d.label), ("assertions", .array
            ((Check.ofJson options.checks d.content).map Check.toJson))])).prettyText := by
  choose! test spec using fun (v : Json) (container : v.isContainer) =>
    compileValue_of_isContainer options container
  have tests {docs : List (Labelled Json)} (containers : ∀ d ∈ docs, d.content.isContainer) :
      testBatch options docs = .ok (showSources (docs.map fun d => ⟨d.label, test d.content⟩)) := by
    rw [testBatch, perDocument_eq_ok fun d mem => spec d.content (containers d mem)]
    rfl
  have checks {docs : List (Labelled Json)} (containers : ∀ d ∈ docs, d.content.isContainer) :
      checkBatch options docs = .ok (showChecks
        (docs.map fun d => ⟨d.label, Check.ofJson options.checks d.content⟩)) := by
    rw [checkBatch, perDocument_eq_ok fun d mem => checksOf_of_isContainer _ (containers d mem)]
    rfl
  -- Only a single document is shown without its label.
  refine ⟨test, spec, fun d container => ?_, fun docs several containers => ?_⟩
  · have alone : ∀ d' ∈ [d], d'.content.isContainer := by simpa using container
    exact ⟨tests alone, checks alone⟩
  · rw [tests containers, checks containers, showSources_of_length (by simpa using several),
      showChecks_of_length (by simpa using several), List.map_map, List.map_map]
    exact ⟨rfl, rfl⟩

/-- Two documents under one label, and the second one on its own. -/
theorem testBatch_equal_labels :
    let options : Options := { source := { format := false } }
    let docs : List (Labelled Json) := [⟨"a", .object []⟩, ⟨"a", .array [.null]⟩]
    (2 ≤ docs.length ∧ ∀ d ∈ docs, d.content.isContainer) ∧
    testBatch options docs = .ok
      "// a\ngiven().when().then();\n\n// a\ngiven().when().then().body(\"[0]\", nullValue());" ∧
    checkBatch options docs = .ok ("\n".intercalate
      ["[", "  \x7b", "    \"source\": \"a\",", "    \"assertions\": []", "  \x7d,",
        "  \x7b", "    \"source\": \"a\",", "    \"assertions\": [", "      \x7b",
        "        \"testType\": \"CheckForNull\",", "        \"path\": \"[0]\"", "      \x7d",
        "    ]", "  \x7d", "]"]) ∧
    checkBatch options [⟨"a", .array [.null]⟩] = .ok ("\n".intercalate
      ["[", "  \x7b", "    \"testType\": \"CheckForNull\",", "    \"path\": \"[0]\"", "  \x7d",
        "]"]) := by
  intro options docs
  have containers : ∀ d ∈ docs, d.content.isContainer := by decide
  obtain ⟨test, spec, alone, blocks⟩ := testBatch_eq_blocks options
  have first : Except.ok (test (.object [])) = .ok "given().when().then();" :=
    (spec (.object []) rfl).symm.trans (by decide)
  have second : Except.ok (test (.array [.null])) =
      .ok "given().when().then().body(\"[0]\", nullValue());" :=
    (spec (.array [.null]) rfl).symm.trans (by decide)
  refine ⟨⟨by decide, containers⟩, ?_, ?_, ?_⟩
  · rw [(blocks docs (by decide) containers).1]
    simp only [docs, List.map_cons, List.map_nil, Except.ok.inj first, Except.ok.inj second]
    decide
  · rw [(blocks docs (by decide) containers).2]
    exact congrArg Except.ok (by decide +kernel)
  · rw [(alone _ rfl).2]
    exact congrArg Except.ok (by decide)

end BodyCheck
