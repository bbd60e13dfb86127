import BodyCheck.Proofs.Records

/-!
# Configurations that were written

Every configuration can be written in many ways: sections have two names, what has its default may
be left out, pairs are a list or an object, members stand in any order and strings have any escapes.
Whatever the writer chooses (`Config.Style`), the options that are read are those that were written
(`Config.parse_text`).
-/

namespace BodyCheck

/-! ## Writing values -/

/-- An argument whose literals are written by a function. -/
def Arg.json {α : Type} (literal : α → Json) : Arg α → Json
  | .literal value => literal value
  | .reference name => .object [("ref", .string name)]

/-- A whole number below `2 ^ 16`. -/
def wordJson (n : UInt16) : Json := .number (.integer n.toNat)

/-- A value that may be absent. -/
def optionJson {α : Type} (json : α → Json) : Option α → Json
  | none => .null
  | some a => json a

/-- A pair as a list. -/
def pairJson (p : Pair) : Json := .array [p.1.json .string, p.2.json .string]

/-- The keys and arguments of pairs whose keys are literals. -/
def literalKeys? : List Pair → Option (List (String × Arg String))
  | [] => some []
  | (.literal k, a) :: rest => (literalKeys? rest).map ((k, a) :: ·)
  | (.reference _, _) :: _ => none

/-- Pairs, as an object if that is wanted and the keys are distinct literals, and else as a list. -/
def pairsJson (asObject : Bool) (pairs : List Pair) : Json :=
  match literalKeys? pairs with
  | some args =>
    if asObject ∧ (args.map Prod.fst).Nodup then
      .object (args.map fun (k, a) => (k, a.json .string))
    else .array (pairs.map pairJson)
  | none => .array (pairs.map pairJson)

/-! ## What values stand for -/

theorem Arg.text?_json (a : Arg String) : text? (a.json .string) = some a := by
  cases a <;> rfl

/-- A port is read off its number, which lies below the bound. -/
theorem portOf?_wordJson (n : UInt16) : portOf? (wordJson n) = some n := by
  have bound : (n.toNat : Int) < Nat.pow 2 16 := Int.ofNat_lt.mpr n.toNat_lt
  simp only [wordJson, portOf?, Int.natCast_nonneg, bound, and_self, if_true, Int.toNat_natCast,
    UInt16.ofNat_toNat]

theorem Arg.port?_json (a : Arg UInt16) : port? (a.json wordJson) = some a := by
  cases a with
  | literal n =>
      have word := portOf?_wordJson n
      rw [wordJson] at word
      simp only [json, wordJson, port?, ofJson?, word, Option.map_some]
  | reference name => rfl

/-- Pairs are read off a list of pairs, whatever their keys are. -/
theorem pairsOfItems?_map (pairs : List Pair) :
    pairsOfItems? (pairs.map pairJson) = some pairs := by
  induction pairs with
  | nil => rfl
  | cons p pairs ih =>
      have first : pairOf? (pairJson p) = some p := by
        rw [pairJson, pairOf?, Arg.text?_json, Arg.text?_json]
        rfl
      rw [List.map_cons, pairsOfItems?, first, ih]
      rfl

theorem argsOfEntries?_map (args : List (String × Arg String)) :
    argsOfEntries? (args.map fun (k, a) => (k, a.json .string)) = some args := by
  induction args with
  | nil => rfl
  | cons e args ih =>
      rw [List.map_cons, argsOfEntries?, Arg.text?_json, ih]
      rfl

/-- Pairs whose keys are literals are known from the keys and the arguments. -/
theorem eq_map_of_literalKeys? {pairs : List Pair} {args : List (String × Arg String)}
    (h : literalKeys? pairs = some args) : pairs = args.map fun (k, a) => (.literal k, a) := by
  induction pairs generalizing args with
  | nil =>
      cases h
      rfl
  | cons p pairs ih =>
      obtain ⟨key | name, a⟩ := p
      · obtain ⟨args, tail, rfl⟩ := Option.map_eq_some_iff.mp h
        rw [List.map_cons, ← ih tail]
      · cases h

/-- Pairs are read off both of their forms. -/
theorem pairsOf?_pairsJson (asObject : Bool) (pairs : List Pair) :
    pairsOf? (pairsJson asObject pairs) = some pairs := by
  unfold pairsJson
  split
  · next args literals =>
      split
      · next wanted =>
          rw [pairsOf?, argsOfEntries?_map, eq_map_of_literalKeys? literals]
          show some ((putEntries [] args).map _) = _
          rw [putEntries_of_nodup wanted.2]
      · exact pairsOfItems?_map pairs
  · exact pairsOfItems?_map pairs

/-! ## Reading values -/

namespace Config

section

variable {α : Type} {escape : Char → List Char} {depth : Nat}

/-- A value that is read back from its text is read as what it stands for. -/
theorem reads_readMatching (isEscape : IsEscape escape) {v : Json}
    (kept : v.IsWithin depth fun n => n.reread? = some n) {of? : Json → Option α} {a : α}
    (h : of? v = some a) (error : Error) :
    Reads (readMatching depth error of?) (v.renderWith escape) (some a) := by
  intro rest offset ends
  have reads := Json.reads_renderWith isEscape kept.1
  rw [Json.reread?_eq_some_iff_numbers.mpr kept.2] at reads
  obtain ⟨offset', outcome⟩ := reads.exists_ok ends offset
  rw [readMatching, outcome]
  simp only [json_ok, ok_bind, h]
  rfl

theorem reads_readBoolean (b : Bool) :
    Reads readBoolean ((Json.bool b).renderWith escape) (some b) := by
  cases b <;> exact fun _ _ _ => rfl

/-- Null is read as nothing.  Anything else is read as something if it does not begin like null. -/
theorem reads_readOptional {read : Reader α} {json : α → Json} {a : Option α}
    (h : ∀ b ∈ a, Reads read ((json b).renderWith escape) (some b) ∧
      ∃ ch rest, (json b).renderWith escape = ch :: rest ∧ Cursor.isBlank ch = false ∧ ch ≠ 'n') :
    Reads (readOptional read) ((optionJson json a).renderWith escape) (some a) := by
  intro rest offset ends
  cases a with
  | none => rfl
  | some b =>
      -- The first letter tells null from anything else.
      obtain ⟨reads, ch, more, front, shown, letter⟩ := h b rfl
      obtain ⟨offset', outcome⟩ := reads.exists_ok ends offset
      rw [optionJson]
      rw [front] at outcome ⊢
      rw [List.cons_append] at outcome ⊢
      rw [readOptional, Cursor.skipBlanks_cons shown]
      dsimp only
      split
      · next same => exact absurd (List.cons.inj same).1 letter
      · rw [outcome]
        rfl

/-- A method is read off its word, however the word is escaped. -/
theorem reads_readMethod (isEscape : IsEscape escape) (m : Method) :
    Reads (readMethod depth) ((Json.string m.word).renderWith escape) (some m) := by
  intro rest offset _
  have word : Method.ofWord? m.word = some m := by cases m <;> rfl
  have whole := Json.taken_stringPart isEscape m.word rest (offset + 1)
  rw [Json.renderWith, Json.quotedWith, List.cons_append, List.append_assoc]
  show taken (readMethodWord ⟨'"' :: (m.word.toList.flatMap escape ++ '"' :: rest), offset⟩) = _
  rw [readMethodWord, Cursor.skipBlanks_cons (by decide)]
  dsimp only
  cases outcome : Json.stringPart ⟨m.word.toList.flatMap escape ++ '"' :: rest, offset + 1⟩ with
  | error f =>
      rw [outcome] at whole
      cases whole
  | ok y =>
      obtain ⟨w, left, offset'⟩ := y
      rw [outcome] at whole
      cases whole
      simp only [outcome, json_ok, ok_bind, word]
      rfl

/-- A number begins with a digit, and so neither with a blank nor with a letter. -/
theorem exists_wordJson_eq (n : UInt16) : ∃ ch rest, (wordJson n).renderWith escape = ch :: rest ∧
    ch.isDigit := by
  obtain ⟨ch, rest, front, digit⟩ := (isNumeral_decimalDigits n.toNat).exists_cons
  exact ⟨ch, rest, (Json.integerText_natCast n.toNat).trans front, digit⟩

/-- A number of 16 bits is read off its digits, which begin with no sign. -/
theorem reads_readWord16 (n : UInt16) :
    Reads readWord16 ((wordJson n).renderWith escape) (some n) := by
  intro rest offset ends
  have small : n.toNat < Nat.pow 2 64 := Nat.lt_trans n.toNat_lt (by decide)
  have word : (n.toNat : Int) < Nat.pow 2 16 := Int.ofNat_lt.mpr n.toNat_lt
  have text : (wordJson n).renderWith escape = decimalDigits n.toNat :=
    Json.integerText_natCast n.toNat
  obtain ⟨ch, more, front, digit⟩ := (isNumeral_decimalDigits n.toNat).exists_cons
  obtain ⟨offset', outcome⟩ :=
    (Json.reads_numberPart_decimalDigits small).exists_ok ends offset
  rw [text]
  rw [front, List.cons_append] at outcome ⊢
  rw [readWord16, Cursor.skipBlanks_cons (isBlank_of_isDigit digit)]
  dsimp only
  split
  · next same => exact absurd (List.cons.inj same).1 (ne_of_isDigit digit '-' rfl)
  · next ch' _ same =>
      cases same
      rw [if_pos digit, outcome, json_ok, ok_bind, word16Of, if_pos ⟨Int.natCast_nonneg _, word⟩,
        taken_ok, Int.toNat_natCast, UInt16.ofNat_toNat]
      rfl
  · next no => cases no

end

/-! ## Records that are read in part -/

/-- The value of a field if it has been seen, and its default if not. -/
def kept {α : Type} (seen : List String) (name : String) (default value : α) : α :=
  if name ∈ seen then value else default

@[simp] theorem kept_cons_self {α : Type} (seen : List String) (name : String) (default value : α) :
    kept (name :: seen) name default value = value := if_pos (List.mem_cons_self ..)

@[simp] theorem kept_cons {α : Type} (seen : List String) {name other : String} (h : name ≠ other)
    (default value : α) :
    kept (other :: seen) name default value = kept seen name default value := by
  rw [kept, kept]
  simp only [List.mem_cons, h, false_or]

/-- The member of a field that may be left out if it has its default. -/
def Member.of {α : Type} [DecidableEq α] (name : String) (json : α → Json) (default value : α) :
    Member :=
  ⟨name, name, json value, value = default⟩

/-- A field that was left out has its default, so nothing is lost. -/
theorem kept_eq_of_mem_or_mayMiss {α : Type} [DecidableEq α] {names : List String} {name : String}
    {json : α → Json} {default value : α}
    (h : (Member.of name json default value).name ∈ names ∨
      (Member.of name json default value).mayMiss = true) :
    kept names name default value = value := by
  rw [kept]
  split
  · rfl
  · next missing => exact (of_decide_eq_true (h.resolve_left missing)).symm

section

variable {σ α : Type} {entries : List (Entry σ)} {restrict : List String → σ} {depth : Nat}
  {escape : Char → List Char}

/-- A member is read by the entry that goes by its name, which puts the value into its own field. -/
theorem readsMember {m : Member} {read : Nat → Reader α} {f : σ → α → σ} {a : α} {e : Entry σ}
    (found : entries.find? (·.goesBy m.key) = some e) (named : e.name = m.name)
    (reader : e.read = (field m.name read f).read)
    (h : Reads (read depth) (m.value.renderWith escape) (some a))
    (put : ∀ seen, f (restrict seen) a = restrict (m.name :: seen)) :
    ReadsMember entries restrict depth escape m := by
  refine ⟨e, found, named, fun seen => ?_⟩
  rw [reader, ← put seen]
  exact reads_field h

end

/-! ## The options on checks -/

/-- The members of the options on checks. -/
def checkMembers (o : CheckOptions) : List Member :=
  [.of "simplifyArrays" .bool false o.simplifyArrays,
    .of "checkEmptyContainers" .bool false o.checkEmptyContainers]

/-- The options on checks of which some fields have been seen. -/
def seenChecks (o : CheckOptions) (seen : List String) : CheckOptions where
  simplifyArrays := kept seen "simplifyArrays" false o.simplifyArrays
  checkEmptyContainers := kept seen "checkEmptyContainers" false o.checkEmptyContainers

/-- The options on checks are read off their members. -/
theorem reads_readChecks (style : Style) (o : CheckOptions) (depth : Nat) :
    Reads (readChecks (depth + 1)) ((style.object (checkMembers o)).renderWith style.escape)
      (some o) := by
  have distinct : ((checkMembers o).map Member.name).Nodup := by
    show ["simplifyArrays", "checkEmptyContainers"].Nodup
    decide
  refine reads_readRecord (seenChecks o) distinct ?_ ?_
  · simp only [checkMembers, List.forall_mem_cons]
    refine ⟨?_, ?_, fun _ none => absurd none List.not_mem_nil⟩
    · exact readsMember rfl rfl rfl (reads_readBoolean _) fun seen => by
        simp [seenChecks, Member.of]
    · exact readsMember rfl rfl rfl (reads_readBoolean _) fun seen => by
        simp [seenChecks, Member.of]
  · intro names complete
    simp only [checkMembers, List.forall_mem_cons] at complete
    obtain ⟨simplify, empty, -⟩ := complete
    rw [seenChecks, kept_eq_of_mem_or_mayMiss simplify, kept_eq_of_mem_or_mayMiss empty]

/-! ## Requests -/

/-- A text argument. -/
def textJson (a : Arg String) : Json := a.json .string

/-- A port argument. -/
def portJson (a : Arg UInt16) : Json := a.json wordJson

/-- A method. -/
def methodJson (m : Method) : Json := .string m.word

/-- The members of a request. -/
def requestMembers (style : Style) (o : RequestOptions) : List Member :=
  [.of "accept" (optionJson textJson) none o.accept,
    .of "body" (optionJson textJson) none o.body,
    .of "contentType" (optionJson textJson) none o.contentType,
    .of "port" (optionJson portJson) none o.port,
    .of "method" (optionJson methodJson) none o.method,
    .of "url" (optionJson textJson) none o.url,
    .of "cookies" (pairsJson (style.pairsAsObject "cookies")) [] o.cookies,
    .of "headers" (pairsJson (style.pairsAsObject "headers")) [] o.headers,
    .of "params" (pairsJson (style.pairsAsObject "params")) [] o.params,
    .of "queryParams" (pairsJson (style.pairsAsObject "queryParams")) [] o.queryParams]

/-- The request of which some fields have been seen. -/
def seenRequest (o : RequestOptions) (seen : List String) : RequestOptions where
  accept := kept seen "accept" none o.accept
  body := kept seen "body" none o.body
  contentType := kept seen "contentType" none o.contentType
  port := kept seen "port" none o.port
  method := kept seen "method" none o.method
  url := kept seen "url" none o.url
  cookies := kept seen "cookies" [] o.cookies
  headers := kept seen "headers" [] o.headers
  params := kept seen "params" [] o.params
  queryParams := kept seen "queryParams" [] o.queryParams

/-- A reference is an object of one level, and a literal is as deep as its value. -/
theorem isWithin_json {α : Type} {literal : α → Json} {depth : Nat} {P : Number → Prop}
    (h : 1 ≤ depth) (hl : ∀ value, (literal value).IsWithin depth P) (a : Arg α) :
    (a.json literal).IsWithin depth P := by
  cases a with
  | literal value => exact hl value
  | reference name => exact ⟨h, fun _ none => absurd none List.not_mem_nil⟩

section

variable {escape : Char → List Char} {depth : Nat} (isEscape : IsEscape escape)

include isEscape

/-- A text argument is read off either of its forms. -/
theorem reads_readText (h : 1 ≤ depth) (a : Arg String) :
    Reads (readText depth) ((textJson a).renderWith escape) (some a) :=
  reads_readMatching isEscape (isWithin_json h (fun _ => Json.isWithin_of_numbers_eq_nil rfl rfl) a)
    a.text?_json .noArg

/-- An optional text begins with a quote or a brace, and so not like null. -/
theorem reads_readOptionalText (h : 1 ≤ depth) (a : Option (Arg String)) :
    Reads (readOptionalText depth) ((optionJson textJson a).renderWith escape) (some a) := by
  refine reads_readOptional fun b _ => ⟨reads_readText isEscape h b, ?_⟩
  cases b with
  | literal s => exact ⟨_, _, rfl, rfl, by decide⟩
  | reference name => exact ⟨_, _, rfl, rfl, by decide⟩

/-- A port argument is read off either of its forms. -/
theorem reads_readPort (h : 1 ≤ depth) (a : Arg UInt16) :
    Reads (readPort depth) ((portJson a).renderWith escape) (some a) := by
  refine reads_readMatching isEscape (isWithin_json h (fun n => Json.isWithin_number ?_) a)
    a.port?_json .noArg
  have small : n.toNat < Nat.pow 2 64 := Nat.lt_trans n.toNat_lt (by decide)
  refine Number.reread?_integer ⟨?_, Int.ofNat_lt.mpr small⟩
  have : (0 : Int) ≤ Nat.pow 2 63 := Int.natCast_nonneg _
  omega

theorem reads_readOptionalPort (h : 1 ≤ depth) (a : Option (Arg UInt16)) :
    Reads (readOptional (readPort depth)) ((optionJson portJson a).renderWith escape) (some a) := by
  refine reads_readOptional fun b _ => ⟨reads_readPort isEscape h b, ?_⟩
  cases b with
  | literal n =>
      obtain ⟨ch, more, front, digit⟩ := exists_wordJson_eq n
      exact ⟨ch, more, front, isBlank_of_isDigit digit, ne_of_isDigit digit 'n' rfl⟩
  | reference name => exact ⟨_, _, rfl, rfl, by decide⟩

theorem reads_readOptionalMethod (a : Option Method) :
    Reads (readOptional (readMethod depth)) ((optionJson methodJson a).renderWith escape)
      (some a) :=
  reads_readOptional fun b _ => ⟨reads_readMethod isEscape b, _, _, rfl, rfl, by decide⟩

/-- Pairs are read off either of their forms, which are three levels deep at most. -/
theorem reads_readPairs (h : 3 ≤ depth) (asObject : Bool) (pairs : List Pair) :
    Reads (readPairs depth) ((pairsJson asObject pairs).renderWith escape) (some pairs) := by
  obtain ⟨d, rfl⟩ : ∃ d, depth = d + 3 := ⟨depth - 3, by omega⟩
  have arg : ∀ (d : Nat) (a : Arg String),
      (textJson a).IsWithin (d + 1) fun n => n.reread? = some n := fun d =>
    isWithin_json (by omega) fun _ => Json.isWithin_of_numbers_eq_nil rfl rfl
  have list : (Json.array (pairs.map pairJson)).IsWithin (d + 3) fun n => n.reread? = some n := by
    refine Json.isWithin_array (List.forall_mem_map.mpr fun p _ => Json.isWithin_array ?_)
    simp only [List.forall_mem_cons]
    exact ⟨arg d p.1, arg d p.2, fun _ none => absurd none List.not_mem_nil⟩
  refine reads_readMatching isEscape ?_ (pairsOf?_pairsJson asObject pairs) .noPairs
  unfold pairsJson
  split
  · split
    · exact Json.isWithin_object (List.forall_mem_map.mpr fun e _ => arg (d + 1) e.2)
    · exact list
  · exact list

end

/-- A request is read off its members. -/
theorem reads_readRequest (style : Style) (o : RequestOptions) {depth : Nat} (h : 3 ≤ depth) :
    Reads (readRequest (depth + 1))
      ((style.object (requestMembers style o)).renderWith style.escape) (some o) := by
  have distinct : ((requestMembers style o).map Member.name).Nodup := by
    show ["accept", "body", "contentType", "port", "method", "url", "cookies", "headers", "params",
      "queryParams"].Nodup
    decide
  have esc := style.isEscape
  have some_depth : 1 ≤ depth := by omega
  refine reads_readRecord (seenRequest o) distinct ?_ ?_
  · -- Every member has the reader of its value, and puts the value into its own field only.
    simp only [requestMembers, List.forall_mem_cons]
    refine ⟨?_, ?_, ?_, ?_, ?_, ?_, ?_, ?_, ?_, ?_, fun _ none => absurd none List.not_mem_nil⟩
    · exact readsMember rfl rfl rfl (reads_readOptionalText esc some_depth _) fun seen => by
        simp [seenRequest, Member.of]
    · exact readsMember rfl rfl rfl (reads_readOptionalText esc some_depth _) fun seen => by
        simp [seenRequest, Member.of]
    · exact readsMember rfl rfl rfl (reads_readOptionalText esc some_depth _) fun seen => by
        simp [seenRequest, Member.of]
    · exact readsMember rfl rfl rfl (reads_readOptionalPort esc some_depth _) fun seen => by
        simp [seenRequest, Member.of]
    · exact readsMember rfl rfl rfl (reads_readOptionalMethod esc _) fun seen => by
        simp [seenRequest, Member.of]
    · exact readsMember rfl rfl rfl (reads_readOptionalText esc some_depth _) fun seen => by
        simp [seenRequest, Member.of]
    · exact readsMember rfl rfl rfl (reads_readPairs esc h _ _) fun seen => by
        simp [seenRequest, Member.of]
    · exact readsMember rfl rfl rfl (reads_readPairs esc h _ _) fun seen => by
        simp [seenRequest, Member.of]
    · exact readsMember rfl rfl rfl (reads_readPairs esc h _ _) fun seen => by
        simp [seenRequest, Member.of]
    · exact readsMember rfl rfl rfl (reads_readPairs esc h _ _) fun seen => by
        simp [seenRequest, Member.of]
  · intro names complete
    simp only [requestMembers, List.forall_mem_cons] at complete
    obtain ⟨accept, body, type, port, method, url, cookies, headers, params, query, -⟩ := complete
    -- A field without a member has its default, so every field is what was written.
    rw [seenRequest, kept_eq_of_mem_or_mayMiss accept, kept_eq_of_mem_or_mayMiss body,
      kept_eq_of_mem_or_mayMiss type, kept_eq_of_mem_or_mayMiss port,
      kept_eq_of_mem_or_mayMiss method, kept_eq_of_mem_or_mayMiss url,
      kept_eq_of_mem_or_mayMiss cookies, kept_eq_of_mem_or_mayMiss headers,
      kept_eq_of_mem_or_mayMiss params, kept_eq_of_mem_or_mayMiss query]

/-! ## The options on the source -/

/-- The members of the options on the source. -/
def sourceMembers (style : Style) (o : SourceOptions) : List Member :=
  [.of "statusCode" (optionJson wordJson) none o.statusCode,
    .of "format" .bool true o.format,
    .of "includeDependencies" .bool false o.includeDependencies,
    .of "request" (fun r => style.object (requestMembers style r)) {} o.request]

/-- The options on the source of which some fields have been seen. -/
def seenSource (o : SourceOptions) (seen : List String) : SourceOptions where
  statusCode := kept seen "statusCode" none o.statusCode
  format := kept seen "format" true o.format
  includeDependencies := kept seen "includeDependencies" false o.includeDependencies
  request := kept seen "request" {} o.request

theorem reads_readOptionalWord16 {escape : Char → List Char} (n : Option UInt16) :
    Reads (readOptional readWord16) ((optionJson wordJson n).renderWith escape) (some n) := by
  refine reads_readOptional fun n _ => ⟨reads_readWord16 n, ?_⟩
  obtain ⟨ch, more, front, digit⟩ := exists_wordJson_eq n
  exact ⟨ch, more, front, isBlank_of_isDigit digit, ne_of_isDigit digit 'n' rfl⟩

/-- The options on the source are read off their members, of which the request is the deepest. -/
theorem reads_readSource (style : Style) (o : SourceOptions) {depth : Nat} (h : 4 ≤ depth) :
    Reads (readSource (depth + 1)) ((style.object (sourceMembers style o)).renderWith style.escape)
      (some o) := by
  obtain ⟨d, rfl⟩ : ∃ d, depth = d + 1 := ⟨depth - 1, by omega⟩
  have distinct : ((sourceMembers style o).map Member.name).Nodup := by
    show ["statusCode", "format", "includeDependencies", "request"].Nodup
    decide
  refine reads_readRecord (seenSource o) distinct ?_ ?_
  · simp only [sourceMembers, List.forall_mem_cons]
    refine ⟨?_, ?_, ?_, ?_, fun _ none => absurd none List.not_mem_nil⟩
    · exact readsMember rfl rfl rfl (reads_readOptionalWord16 _) fun seen => by
        simp [seenSource, Member.of]
    · exact readsMember rfl rfl rfl (reads_readBoolean _) fun seen => by
        simp [seenSource, Member.of]
    · exact readsMember rfl rfl rfl (reads_readBoolean _) fun seen => by
        simp [seenSource, Member.of]
    · exact readsMember rfl rfl rfl (reads_readRequest style _ (by omega)) fun seen => by
        simp [seenSource, Member.of]
  · intro names complete
    simp only [sourceMembers, List.forall_mem_cons] at complete
    obtain ⟨status, format, imports, request, -⟩ := complete
    rw [seenSource, kept_eq_of_mem_or_mayMiss status, kept_eq_of_mem_or_mayMiss format,
      kept_eq_of_mem_or_mayMiss imports, kept_eq_of_mem_or_mayMiss request]

/-! ## All options -/

/-- The members of all options. -/
def optionMembers (style : Style) (o : Options) : List Member :=
  [{ Member.of "transformer" (fun c => style.object (checkMembers c)) {} o.checks with
      key := if style.longName "transformer" then "transformerOptions" else "transformer" },
    { Member.of "generator" (fun s => style.object (sourceMembers style s)) {} o.source with
      key := if style.longName "generator" then "generatorOptions" else "generator" }]

/-- All options of which some fields have been seen. -/
def seenOptions (o : Options) (seen : List String) : Options where
  checks := kept seen "transformer" {} o.checks
  source := kept seen "generator" {} o.source

/-- All options are read off their two sections, under either of their names. -/
theorem reads_readOptions (style : Style) (o : Options) {depth : Nat} (h : 5 ≤ depth) :
    Reads (readOptions (depth + 1)) ((style.object (optionMembers style o)).renderWith style.escape)
      (some o) := by
  obtain ⟨d, rfl⟩ : ∃ d, depth = d + 1 := ⟨depth - 1, by omega⟩
  have distinct : ((optionMembers style o).map Member.name).Nodup := by
    show ["transformer", "generator"].Nodup
    decide
  refine reads_readRecord (seenOptions o) distinct ?_ ?_
  · simp only [optionMembers, List.forall_mem_cons]
    refine ⟨?_, ?_, fun _ none => absurd none List.not_mem_nil⟩
    · cases style.longName "transformer" <;>
        exact readsMember (f := fun o c => { o with checks := c }) rfl rfl rfl
          (reads_readChecks style o.checks d) fun seen => by simp [seenOptions, Member.of]
    · cases style.longName "generator" <;>
        exact readsMember (f := fun o s => { o with source := s }) rfl rfl rfl
          (reads_readSource style o.source (by omega)) fun seen => by simp [seenOptions, Member.of]
  · intro names complete
    simp only [optionMembers, List.forall_mem_cons] at complete
    obtain ⟨checks, source, -⟩ := complete
    rw [seenOptions, kept_eq_of_mem_or_mayMiss checks, kept_eq_of_mem_or_mayMiss source]

/-- The text of options. -/
def Style.text (style : Style) (o : Options) : String :=
  String.ofList ((style.object (optionMembers style o)).renderWith style.escape)

/-- Whatever the writer chooses, the options that are read are those that were written. -/
theorem parse_text (style : Style) (o : Options) : parse (style.text o) = .ok o := by
  have reads := reads_readOptions style o (show 5 ≤ 126 by decide)
  have ends : EndsValue [] := trivial
  obtain ⟨offset, outcome⟩ := reads.exists_ok ends 0
  rw [List.append_nil] at outcome
  rw [parse, read, Style.text, String.toList_ofList]
  show Except.map Prod.fst (readOptions (126 + 1) ⟨_, 0⟩) = _
  rw [outcome]
  rfl

/-- The plainest way to write a configuration: everything is written, under its own name and in
its order. -/
def Style.plain : Style where
  escape := Json.escapeChar
  isEscape := Json.isEscape_escapeChar
  longName _ := false
  leavesOut _ := false
  pairsAsObject _ := false
  arrange members := members
  arrange_perm _ := .refl _

/-- The plainest text is the compact text of a value. -/
theorem Style.text_plain (o : Options) :
    plain.text o = (plain.object (optionMembers plain o)).text := by
  rw [text, Json.text, Json.render_eq_renderWith]
  rfl

example : (Style.plain.object (checkMembers ⟨true, false⟩)).render =
    "\x7b\"simplifyArrays\":true,\"checkEmptyContainers\":false\x7d".toList := by decide

end Config

end BodyCheck
