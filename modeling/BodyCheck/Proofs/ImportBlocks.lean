import BodyCheck.Proofs.Chains
import Mathlib.Data.Finset.Sort
import Mathlib.Data.String.Basic

/-!
# The imports in front of a test

The names that a test uses can be collected while its clauses are written: each check adds the name
it uses to a set that starts with `given` (`Import.collected`).  What matters of the checks is only
which forms occur among them (`Import.Uses`).

The lines of such a set, put in order, are the lines that stand in front of a test
(`Import.block_eq_blockOf`), and the test with its imports is the test without them behind these
lines (`testSource_eq_blockOf_append`).
-/

namespace BodyCheck

/-- The bytes of a text. -/
def utf8Bytes (text : String) : List UInt8 := text.toUTF8.data.toList

namespace Import

/-! ## Names that are used -/

/-- A test with these checks uses the name. -/
inductive Uses (checks : List Check) : Import → Prop where
  /-- Every test starts with `given`. -/
  | given : Uses checks .given
  | equalTo {path : String} {v : Json} {kind : Kind} :
      .value path v kind ∈ checks → Uses checks .equalTo
  | nullValue {path : String} : .null path ∈ checks → Uses checks .nullValue
  | contains {path : String} {list : List Item} :
      .items path list ∈ checks → Uses checks .contains
  | empty {path : String} : .empty path ∈ checks → Uses checks .empty

theorem uses_iff {checks : List Check} {i : Import} :
    Uses checks i ↔ i = .given ∨ ∃ c ∈ checks, ofCheck c = i := by
  constructor
  · intro used
    cases used with
    | given => exact .inl rfl
    | equalTo mem => exact .inr ⟨_, mem, rfl⟩
    | nullValue mem => exact .inr ⟨_, mem, rfl⟩
    | contains mem => exact .inr ⟨_, mem, rfl⟩
    | empty mem => exact .inr ⟨_, mem, rfl⟩
  · rintro (rfl | ⟨c, mem, rfl⟩)
    · exact .given
    · cases c with
      | value path v kind => exact .equalTo mem
      | null path => exact .nullValue mem
      | items path list => exact .contains mem
      | empty path => exact .empty mem

/-! ## Names that are collected -/

/-- The names so far, with the one that a check uses. -/
def collect (names : Finset Import) (c : Check) : Finset Import := insert (ofCheck c) names

/-- The names of a test, collected check by check. -/
def collected (checks : List Check) : Finset Import := checks.foldl collect {.given}

/-- A check adds the name it uses and no other. -/
theorem mem_collect {names : Finset Import} {c : Check} {i : Import} :
    i ∈ collect names c ↔ ofCheck c = i ∨ i ∈ names := by
  rw [collect, Finset.mem_insert, eq_comm]

theorem mem_foldl_collect {checks : List Check} {names : Finset Import} {i : Import} :
    i ∈ checks.foldl collect names ↔ i ∈ names ∨ ∃ c ∈ checks, ofCheck c = i := by
  -- each check passes a larger set on, so the induction is for all sets
  induction checks generalizing names with
  | nil => simp
  | cons c rest ih =>
      rw [List.foldl_cons, ih, mem_collect, List.exists_mem_cons_iff]
      tauto

/-- The names that are collected are those that the test uses. -/
theorem mem_collected_iff {checks : List Check} {i : Import} :
    i ∈ collected checks ↔ Uses checks i := by
  rw [collected, mem_foldl_collect, Finset.mem_singleton, uses_iff]

/-! ## Lines in order -/

/-- The lines of names, in order. -/
def sortedLines (names : Finset Import) : List String := (names.image line).sort

/-- The lines of names and the line that separates them from the test. -/
def blockOf (names : Finset Import) : String :=
  String.join ((sortedLines names).map (· ++ "\n")) ++ separator

theorem mem_sortedLines {names : Finset Import} {text : String} :
    text ∈ sortedLines names ↔ ∃ i ∈ names, i.line = text := by
  rw [sortedLines, Finset.mem_sort, Finset.mem_image]

theorem mem_all (i : Import) : i ∈ all := by
  cases i <;> decide

theorem not_mem_line (i : Import) : '\n' ∉ i.line.toList := by
  have every : ∀ i ∈ all, '\n' ∉ i.line.toList := by decide +kernel
  exact every i i.mem_all

/-! ## Lines of a test -/

theorem mem_used_iff {checks : List Check} {i : Import} : i ∈ used checks ↔ Uses checks i := by
  simp [used, isUsed, mem_all, uses_iff]

/-- Names that are listed in the order of their lines are the lines in order. -/
theorem map_line_used (checks : List Check) :
    (used checks).map line = sortedLines (collected checks) := by
  have ordered : ((used checks).map line).Pairwise (· < ·) :=
    List.pairwise_map.mpr (pairwise_line_all.sublist List.filter_sublist)
  have same : ((used checks).map line).toFinset = (collected checks).image line := by
    ext text
    simp [mem_used_iff, mem_collected_iff]
  -- a list in strict order is what sorting its elements gives
  rw [sortedLines, ← same, (List.toFinset_sort _ ordered.nodup).mpr (ordered.imp le_of_lt)]

/-- The lines are in the order of their bytes too. -/
theorem pairwise_sortedLines (checks : List Check) :
    (sortedLines (collected checks)).Pairwise fun a b => utf8Bytes a < utf8Bytes b := by
  have whole : all.Pairwise fun i j => utf8Bytes i.line < utf8Bytes j.line := by decide +kernel
  rw [← map_line_used]
  exact List.pairwise_map.mpr (whole.sublist List.filter_sublist)

theorem block_eq_blockOf (checks : List Check) : block checks = blockOf (collected checks) := by
  rw [block, blockOf, ← map_line_used, List.map_map]
  rfl

end Import

/-- The imports change nothing but what stands in front of the chain. -/
theorem testSource_imports (options : SourceOptions) (checks : List Check) :
    testSource { options with includeDependencies := true } checks =
      (testSource { options with includeDependencies := false } checks).map
        (Import.block checks ++ ·) := by
  rw [testSource_eq_map, testSource_eq_map]
  cases checkClauses checks with
  | error e => rfl
  | ok middle => simp [Except.map]

/-- A test with its imports is the test without them behind a block of lines, and there is one
exactly if there is the other.  The block is made of the set of names that are used, and nothing
else in the checks matters for it: it holds their lines, each one once and in the order of their
bytes. -/
theorem testSource_eq_blockOf_append (options : SourceOptions) (checks : List Check) :
    testSource { options with includeDependencies := true } checks =
      (testSource { options with includeDependencies := false } checks).map
        (Import.blockOf (Import.collected checks) ++ ·) ∧
    (∀ i, i ∈ Import.collected checks ↔ Import.Uses checks i) ∧
    (∀ text, text ∈ Import.sortedLines (Import.collected checks) ↔
      ∃ i, Import.Uses checks i ∧ i.line = text) ∧
    (Import.sortedLines (Import.collected checks)).Pairwise
      (fun a b => utf8Bytes a < utf8Bytes b) ∧
    ∀ i : Import, '\n' ∉ i.line.toList := by
  refine ⟨?_, fun i => Import.mem_collected_iff, fun text => ?_,
    Import.pairwise_sortedLines checks, Import.not_mem_line⟩
  · rw [testSource_imports, Import.block_eq_blockOf]
  · simp only [Import.mem_sortedLines, Import.mem_collected_iff]

/-- Null as an item is no check for null. -/
example : Import.used [.items "a" [⟨.null, .null⟩], .empty "b"] = [.given, .contains, .empty] := by
  decide

end BodyCheck
