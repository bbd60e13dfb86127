import BodyCheck.Proofs.Refusals

/-!
# The chain of a test

A test is one list of clauses (`chainClauses`), whatever it looks like: the parts of the request
that are set, its pairs, the call that sends it, one clause for each check, and the status.  The
clause of a check is known from the check alone (`Check.Writes`), and the checks have their clauses
in the order they stand in (`checkClauses_eq_ok_iff`).

The layout of a test decides only what stands in front of each clause, and the imports stand in
front of the whole (`testSource_eq_chain`).
-/

namespace BodyCheck

/-! ## Clauses of checks -/

/-- What a check demands of the node, as an argument. -/
inductive Check.Demands : Check → String → Prop where
  | value {path text : String} {v : Json} {kind : Kind} :
      literal kind v = .ok text → Demands (.value path v kind) ("equalTo(" ++ text ++ ")")
  | null {path : String} : Demands (.null path) "nullValue()"
  /-- Every item has its literal. -/
  | items {path : String} {list : List Item} {texts : List String} :
      List.Forall₂ (fun item text => itemLiteral item.kind item.value = .ok text) list texts →
      Demands (.items path list) ("contains(" ++ ", ".intercalate texts ++ ")")
  | empty {path : String} : Demands (.empty path) "empty()"

/-- The clause of a check: its path, and what it demands there. -/
def Check.Writes (c : Check) (clause : String) : Prop :=
  ∃ demand, c.Demands demand ∧ clause = ".body(\"" ++ c.path ++ "\", " ++ demand ++ ")"

/-- Items have their literals in the order they stand in. -/
theorem itemLiterals_eq_ok_iff {list : List Item} {texts : List String} :
    itemLiterals list = .ok texts ↔
      List.Forall₂ (fun item text => itemLiteral item.kind item.value = .ok text) list texts := by
  rw [itemLiterals_eq_mapM, mapM_eq_ok_iff]

/-- What the code demands of a node is what the check demands of it. -/
theorem Check.matcher_eq_ok_iff {c : Check} {demand : String} :
    c.matcher = .ok demand ↔ c.Demands demand := by
  constructor
  · intro h
    cases c with
    | value path v kind =>
        obtain ⟨text, known, same⟩ := exists_of_bind_eq_ok h
        cases same
        exact .value known
    | null path =>
        cases h
        exact .null
    | items path list =>
        obtain ⟨texts, known, same⟩ := exists_of_bind_eq_ok h
        cases same
        exact .items (itemLiterals_eq_ok_iff.mp known)
    | empty path =>
        cases h
        exact .empty
  · intro demands
    cases demands with
    | value known =>
        rw [matcher, known]
        rfl
    | null => rfl
    | items known =>
        rw [matcher, itemLiterals_eq_ok_iff.mpr known]
        rfl
    | empty => rfl

theorem call_body (path demand : String) :
    call "body" (quotedAsIs path ++ ", " ++ demand) =
      ".body(\"" ++ path ++ "\", " ++ demand ++ ")" := by
  simp [← String.toList_inj, call, quotedAsIs]

/-- The clause of a check is the one that it writes. -/
theorem Check.clause_eq_ok_iff {c : Check} {text : String} :
    c.clause = .ok text ↔ c.Writes text := by
  simp only [Writes, ← matcher_eq_ok_iff, ← call_body]
  constructor
  · intro h
    obtain ⟨demand, known, same⟩ := exists_of_bind_eq_ok h
    cases same
    exact ⟨demand, known, rfl⟩
  · rintro ⟨demand, known, rfl⟩
    rw [clause, known]
    rfl

/-- Checks have their clauses in the order they stand in. -/
theorem checkClauses_eq_ok_iff {checks : List Check} {middle : List String} :
    checkClauses checks = .ok middle ↔ List.Forall₂ Check.Writes checks middle := by
  simp only [checkClauses_eq_mapM, mapM_eq_ok_iff, Check.clause_eq_ok_iff]

/-! ## Clauses of requests -/

/-- A call with a text, if that is set. -/
def textCall (name : String) (arg : Option (Arg String)) : List String :=
  (givenText arg).toList.map fun arg => "." ++ name ++ "(" ++ arg.quoted ++ ")"

/-- One call for each pair. -/
def pairCalls (name : String) (pairs : List Pair) : List String :=
  pairs.map fun p => "." ++ name ++ "(" ++ p.1.quoted ++ ", " ++ p.2.quoted ++ ")"

/-- The call that sends the request, if both a method and an address are set. -/
def sendCall (method : Option Method) (url : Option (Arg String)) : List String :=
  match method, givenText url with
  | some method, some url => ["." ++ method.callName ++ "(" ++ url.quoted ++ ")"]
  | _, _ => []

/-- The clauses of a test, with those of its checks given. -/
def chainClauses (r : RequestOptions) (status : Option UInt16) (middle : List String) :
    List String :=
  textCall "accept" r.accept ++ textCall "body" r.body ++ textCall "contentType" r.contentType
    ++ pairCalls "cookie" r.cookies ++ pairCalls "header" r.headers
    ++ pairCalls "param" r.params ++ pairCalls "queryParam" r.queryParams
    ++ [".when()"]
    ++ sendCall r.method r.url
    ++ (givenPort r.port).toList.map (fun port => ".port(" ++ port.portText ++ ")")
    ++ [".then()"]
    ++ middle
    ++ status.toList.map fun status => ".statusCode(" ++ decimalText status.toNat ++ ")"

theorem textClause_eq (name : String) (arg : Option (Arg String)) :
    textClause name arg = textCall name arg := by
  rw [textClause, textCall]
  cases givenText arg <;> rfl

theorem map_pairClause (name : String) (pairs : List Pair) :
    pairs.map (pairClause name) = pairCalls name pairs := by
  refine List.map_congr_left fun p _ => ?_
  simp only [pairClause, call, String.append_assoc]

/-- Without a method nothing is sent, and neither is it to an empty address. -/
theorem endpointClause_eq (r : RequestOptions) :
    endpointClause r = sendCall r.method r.url := by
  unfold endpointClause sendCall
  cases r.method with
  | none => rfl
  | some method => cases givenText r.url <;> rfl

/-- A port that counts as unset has no call. -/
theorem portClause_eq (port : Option (Arg UInt16)) :
    portClause port = (givenPort port).toList.map fun port => ".port(" ++ port.portText ++ ")" := by
  rw [portClause]
  cases givenPort port <;> rfl

theorem statusClause_eq (status : Option UInt16) :
    statusClause status =
      status.toList.map fun status => ".statusCode(" ++ decimalText status.toNat ++ ")" := by
  cases status <;> rfl

/-- The clauses of a test are those of its request around those of its checks. -/
theorem clauses_eq_map (options : SourceOptions) (checks : List Check) :
    clauses options checks =
      (checkClauses checks).map (chainClauses options.request options.statusCode) := by
  rw [clauses]
  cases checkClauses checks with
  | error e => rfl
  | ok middle =>
      simp only [ok_bind, Except.map, RequestOptions.clauses, chainClauses, textClause_eq,
        map_pairClause, endpointClause_eq, portClause_eq, statusClause_eq, List.append_assoc,
        List.singleton_append]
      rfl

/-! ## Layouts -/

/-- A test is its imports, if it is to have them, and the chain of its clauses. -/
theorem testSource_eq_map (options : SourceOptions) (checks : List Check) :
    testSource options checks = (checkClauses checks).map fun middle =>
      (if options.includeDependencies then Import.block checks else "") ++
        chain options.format (chainClauses options.request options.statusCode middle) := by
  rw [testSource, clauses_eq_map]
  cases checkClauses checks <;> rfl

/-- In the formatted layout every clause stands on a line of its own. -/
theorem chain_formatted (cs : List String) :
    chain true cs = "given()" ++ String.join (cs.map ("\n    " ++ ·)) ++ ";" := rfl

/-- In the compact layout nothing stands in front of a clause. -/
theorem chain_compact (cs : List String) :
    chain false cs = "given()" ++ String.join cs ++ ";" := by
  simp [chain, clauseSeparator]

/-- Either a test is refused with one error in every layout, or it has the same clauses in both
layouts, which differ only in what stands in front of each clause. -/
theorem testSource_eq_chain (options : SourceOptions) (checks : List Check) :
    (∃ e, ∀ format imports,
      testSource { options with format := format, includeDependencies := imports } checks =
        .error e) ∨
    ∃ middle, List.Forall₂ Check.Writes checks middle ∧ ∀ imports,
      let front := if imports then Import.block checks else ""
      let cs := chainClauses options.request options.statusCode middle
      testSource { options with format := true, includeDependencies := imports } checks =
        .ok (front ++ ("given()" ++ String.join (cs.map ("\n    " ++ ·)) ++ ";")) ∧
      testSource { options with format := false, includeDependencies := imports } checks =
        .ok (front ++ ("given()" ++ String.join cs ++ ";")) := by
  simp only [testSource_eq_map]
  cases outcome : checkClauses checks with
  | error e => exact .inl ⟨e, fun _ _ => rfl⟩
  | ok middle =>
      refine .inr ⟨middle, checkClauses_eq_ok_iff.mp outcome, fun imports => ?_⟩
      simp only [Except.map, chain_formatted, chain_compact, and_self]

end BodyCheck
