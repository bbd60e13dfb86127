import BodyCheck.Proofs.Configuration

/-!
# Shapes of arguments and pairs

Which values stand for an argument, and which for pairs, is told here without reading them.  A
string is a literal, and an object a reference if the key `ref` is there once and has a string
(`Json.IsArg`).  Pairs are a list of lists of two arguments, or an object of arguments, which gives
one pair for each key, at its first place and with its last value (`Json.ArePairs`).

Exactly these values are accepted (`Arg.text?_eq_some_iff`, `pairsOf?_eq_some_iff`), and so a reader
that stands in front of a value refuses it exactly if it stands for nothing
(`Config.readMatching_iff`).
-/

namespace BodyCheck

namespace Json

/-! ## Shapes -/

/-- The value stands for the argument. -/
inductive IsArg : Json → Arg String → Prop where
  | literal {s : String} : IsArg (.string s) (.literal s)
  /-- The other keys do not matter. -/
  | reference {front back : List (String × Json)} {name : String} :
      (∀ e ∈ front, e.1 ≠ "ref") → (∀ e ∈ back, e.1 ≠ "ref") →
      IsArg (.object (front ++ ("ref", .string name) :: back)) (.reference name)

/-- The value stands for the pair. -/
inductive IsPair : Json → Pair → Prop where
  | intro {v w : Json} {key value : Arg String} :
      v.IsArg key → w.IsArg value → IsPair (.array [v, w]) (key, value)

/-- The value stands for the pairs. -/
inductive ArePairs : Json → List Pair → Prop where
  | list {items : List Json} {pairs : List Pair} :
      List.Forall₂ IsPair items pairs → ArePairs (.array items) pairs
  /-- There is a pair for each key, in the order in which the keys first occur.  Its value is the
  last one of the key, but the others have to be arguments too. -/
  | object {entries : List (String × Json)} {pairs : List Pair} :
      (∀ e ∈ entries, ∃ a, e.2.IsArg a) →
      List.Forall₂ (fun key p => ∃ v a, entries.reverse.lookup key = some v ∧ v.IsArg a ∧
        p = (.literal key, a)) (entries.map Prod.fst).eraseDups pairs →
      ArePairs (.object entries) pairs

end Json

/-! ## Arguments -/

theorem valuesOf_eq_singleton_iff {key : String} {v : Json} {entries : List (String × Json)} :
    valuesOf key entries = [v] ↔ ∃ front back, entries = front ++ (key, v) :: back ∧
      (∀ e ∈ front, e.1 ≠ key) ∧ ∀ e ∈ back, e.1 ≠ key := by
  rw [valuesOf, List.map_eq_singleton_iff]
  constructor
  · rintro ⟨⟨k, w⟩, only, rfl⟩
    obtain ⟨front, back, rfl, before, same, rest⟩ := List.filter_eq_cons_iff.mp only
    obtain rfl : k = key := by simpa using same
    exact ⟨front, back, rfl, by simpa using before, by simpa using rest⟩
  · rintro ⟨front, back, rfl, before, behind⟩
    refine ⟨(key, v), List.filter_eq_cons_iff.mpr ⟨front, back, rfl, ?_, ?_, ?_⟩, rfl⟩
    · simpa using before
    · simp
    · simpa using behind

/-- A value is accepted as an argument exactly if it stands for one. -/
theorem Arg.text?_eq_some_iff {v : Json} {a : Arg String} : text? v = some a ↔ v.IsArg a := by
  cases v with
  | string s =>
      constructor
      · rintro ⟨⟩
        exact .literal
      · rintro ⟨⟩
        rfl
  | object entries =>
      constructor
      · intro h
        rw [text?, ofJson?] at h
        split at h
        · next name once =>
            cases h
            obtain ⟨front, back, rfl, before, behind⟩ := valuesOf_eq_singleton_iff.mp once
            exact .reference before behind
        · cases h
      · intro h
        cases h with
        | @reference front back name before behind =>
            have once : valuesOf "ref" (front ++ ("ref", .string name) :: back) = [.string name] :=
              valuesOf_eq_singleton_iff.mpr ⟨front, back, rfl, before, behind⟩
            rw [text?, ofJson?, once]
  | null | bool b | number n | array items => constructor <;> rintro ⟨⟩

/-! ## Lists of pairs -/

theorem pairOf?_eq_some_iff {v : Json} {p : Pair} : pairOf? v = some p ↔ v.IsPair p := by
  constructor
  · intro h
    unfold pairOf? at h
    split at h
    · next k w =>
        obtain ⟨key, hkey, h⟩ := Option.bind_eq_some_iff.mp h
        obtain ⟨value, hvalue, ⟨⟩⟩ := Option.bind_eq_some_iff.mp h
        exact .intro (Arg.text?_eq_some_iff.mp hkey) (Arg.text?_eq_some_iff.mp hvalue)
    · cases h
  · rintro ⟨hkey, hvalue⟩
    rw [pairOf?, Arg.text?_eq_some_iff.mpr hkey, Arg.text?_eq_some_iff.mpr hvalue]
    rfl

theorem pairsOfItems?_eq_some_iff {items : List Json} {pairs : List Pair} :
    pairsOfItems? items = some pairs ↔ List.Forall₂ Json.IsPair items pairs := by
  induction items generalizing pairs with
  | nil => rw [pairsOfItems?, List.forall₂_nil_left_iff, Option.some_inj, eq_comm]
  | cons v items ih =>
      rw [pairsOfItems?, List.forall₂_cons_left_iff]
      constructor
      · intro h
        obtain ⟨p, first, h⟩ := Option.bind_eq_some_iff.mp h
        obtain ⟨rest, others, ⟨⟩⟩ := Option.bind_eq_some_iff.mp h
        exact ⟨p, rest, pairOf?_eq_some_iff.mp first, ih.mp others, rfl⟩
      · rintro ⟨p, rest, first, others, rfl⟩
        rw [pairOf?_eq_some_iff.mpr first, ih.mpr others]
        rfl

/-! ## Keyed arguments -/

theorem argsOfEntries?_eq_some_iff {entries : List (String × Json)}
    {args : List (String × Arg String)} : argsOfEntries? entries = some args ↔
      List.Forall₂ (fun e f => e.1 = f.1 ∧ e.2.IsArg f.2) entries args := by
  induction entries generalizing args with
  | nil => rw [argsOfEntries?, List.forall₂_nil_left_iff, Option.some_inj, eq_comm]
  | cons e entries ih =>
      obtain ⟨k, v⟩ := e
      rw [argsOfEntries?, List.forall₂_cons_left_iff]
      constructor
      · intro h
        obtain ⟨a, first, h⟩ := Option.bind_eq_some_iff.mp h
        obtain ⟨rest, others, ⟨⟩⟩ := Option.bind_eq_some_iff.mp h
        exact ⟨(k, a), rest, ⟨rfl, Arg.text?_eq_some_iff.mp first⟩, ih.mp others, rfl⟩
      · rintro ⟨⟨k', a⟩, rest, ⟨⟨⟩, first⟩, others, rfl⟩
        rw [Arg.text?_eq_some_iff.mpr first, ih.mpr others]
        rfl

/-- Entries have their arguments if every value is one. -/
theorem exists_argsOfEntries? {entries : List (String × Json)}
    (accepted : ∀ e ∈ entries, ∃ a, e.2.IsArg a) : ∃ args, argsOfEntries? entries = some args := by
  simp only [argsOfEntries?_eq_some_iff]
  induction entries with
  | nil => exact ⟨[], .nil⟩
  | cons e entries ih =>
      obtain ⟨⟨a, first⟩, others⟩ := List.forall_mem_cons.mp accepted
      obtain ⟨rest, known⟩ := ih others
      exact ⟨(e.1, a) :: rest, .cons ⟨rfl, first⟩ known⟩

theorem isArg_of_argsOfEntries? {entries : List (String × Json)}
    {args : List (String × Arg String)} (known : argsOfEntries? entries = some args) :
    ∀ e ∈ entries, ∃ a, e.2.IsArg a := by
  intro e mem
  obtain ⟨f, -, -, isArg⟩ := exists_of_mem_left (argsOfEntries?_eq_some_iff.mp known) mem
  exact ⟨f.2, isArg⟩

/-! ## Objects of arguments -/

section

variable {entries : List (String × Json)} {args : List (String × Arg String)}

/-- The argument that is looked up is that of the value that is looked up. -/
theorem exists_lookup_of_forall₂ {key : String} {a : Arg String}
    (each : List.Forall₂ (fun e f => e.1 = f.1 ∧ e.2.IsArg f.2) entries args)
    (known : args.lookup key = some a) : ∃ v, entries.lookup key = some v ∧ v.IsArg a := by
  induction each with
  | nil => cases known
  | @cons e f entries args first _ ih =>
      rw [List.lookup_cons] at known
      rw [List.lookup_cons, first.1]
      split at known
      · cases known
        exact ⟨e.2, rfl, first.2⟩
      · exact ih known

/-- An object whose values are arguments is accepted, with the pairs it stands for. -/
theorem exists_pairsOf?_object (accepted : ∀ e ∈ entries, ∃ a, e.2.IsArg a) :
    ∃ pairs, pairsOf? (.object entries) = some pairs ∧ (Json.object entries).ArePairs pairs := by
  obtain ⟨args, known⟩ := exists_argsOfEntries? accepted
  have each := argsOfEntries?_eq_some_iff.mp known
  refine ⟨(putEntries [] args).map fun e => (.literal e.1, e.2), ?_, .object accepted ?_⟩
  · rw [pairsOf?, known]
    rfl
  · rw [map_fst_eq_of_forall₂ (each.imp fun _ _ h => h.1), ← map_fst_putEntries,
      List.forall₂_map_left_iff, List.forall₂_map_right_iff, List.forall₂_same]
    intro e mem
    obtain ⟨v, there, isArg⟩ := exists_lookup_of_forall₂ (List.forall₂_reverse_iff.mpr each)
      (lookup_of_mem_putEntries mem)
    exact ⟨v, e.2, there, isArg, rfl⟩

end

/-- A value is accepted as pairs exactly if it stands for pairs. -/
theorem pairsOf?_eq_some_iff {v : Json} {pairs : List Pair} :
    pairsOf? v = some pairs ↔ v.ArePairs pairs := by
  constructor
  · intro h
    cases v with
    | array items => exact .list (pairsOfItems?_eq_some_iff.mp h)
    | object entries =>
        obtain ⟨args, known, -⟩ := Option.bind_eq_some_iff.mp h
        obtain ⟨pairs', again, arePairs⟩ :=
          exists_pairsOf?_object (isArg_of_argsOfEntries? known)
        cases h.symm.trans again
        exact arePairs
    | null | bool b | number n | string s => cases h
  · intro h
    cases h with
    | list each => exact pairsOfItems?_eq_some_iff.mpr each
    | object accepted each =>
        -- the pairs that are read stand for the object too, and there are no others
        obtain ⟨pairs', known, arePairs⟩ := exists_pairsOf?_object accepted
        cases arePairs with
        | object _ each' =>
            have same : pairs' = pairs := by
              refine List.right_unique_forall₂' ?_ each' each
              rintro key _ _ ⟨v, a, there, isArg, rfl⟩ ⟨v', a', there', isArg', rfl⟩
              cases there.symm.trans there'
              rw [← Arg.text?_eq_some_iff] at isArg isArg'
              cases isArg.symm.trans isArg'
              rfl
            rw [known, same]

theorem pairsOfItems?_map_entries (entries : List (String × Json)) :
    pairsOfItems? (entries.map fun e => .array [.string e.1, e.2]) =
      (argsOfEntries? entries).map (·.map fun e => (.literal e.1, e.2)) := by
  induction entries with
  | nil => rfl
  | cons e entries ih =>
      obtain ⟨k, v⟩ := e
      have first : pairOf? (.array [.string k, v]) =
          (Arg.text? v).map fun a => (.literal k, a) := by
        rw [pairOf?]
        cases Arg.text? v <;> rfl
      rw [List.map_cons, pairsOfItems?, first, ih, argsOfEntries?]
      cases Arg.text? v with
      | none => rfl
      | some a => cases argsOfEntries? entries <;> rfl

/-- An object of distinct keys is read like the list of its entries. -/
theorem pairsOf?_object_of_nodup {entries : List (String × Json)}
    (distinct : (entries.map Prod.fst).Nodup) : pairsOf? (.object entries) =
      pairsOf? (.array (entries.map fun e => .array [.string e.1, e.2])) := by
  rw [pairsOf?, pairsOf?, pairsOfItems?_map_entries]
  cases known : argsOfEntries? entries with
  | none => rfl
  | some args =>
      have each := argsOfEntries?_eq_some_iff.mp known
      rw [map_fst_eq_of_forall₂ (each.imp fun _ _ h => h.1)] at distinct
      show some ((putEntries [] args).map _) = some (args.map _)
      rw [putEntries_of_nodup distinct]

/-! ## Reading -/

namespace Config

/-- In front of a value on a text, a reader of what values stand for gives what this one stands for,
and it refuses the value exactly if that is nothing. -/
theorem readMatching_iff {α : Type} {of? : Json → Option α} {StandsFor : Json → α → Prop}
    (spec : ∀ {v a}, of? v = some a ↔ StandsFor v a) {depth : Nat} {c c' : Cursor} {v : Json}
    (there : Json.value depth c = .ok (v, c')) (error : Error) :
    (∀ a, readMatching depth error of? c = .ok (a, c') ↔ StandsFor v a) ∧
    (readMatching depth error of? c = failPending c' error ↔ ∀ a, ¬ StandsFor v a) := by
  simp only [← spec]
  cases known : of? v with
  | none =>
      have refused : readMatching depth error of? c = failPending c' error := by
        rw [readMatching, there]
        simp only [json_ok, ok_bind, known]
      simp [refused, failPending]
  | some a =>
      have accepted : readMatching depth error of? c = .ok (a, c') := by
        rw [readMatching, there]
        simp only [json_ok, ok_bind, known]
        rfl
      simp [accepted, failPending]

end Config

/-- Exactly the documented shapes are accepted, and each with what it stands for: as an argument a
string, or an object with one `ref` that is a string; as pairs a list of lists of two arguments, or
an object of arguments.  An object of distinct keys gives the pairs that the list of its entries
gives.  The readers of a configuration accept a value, wherever it stands, exactly if it has such a
shape, and they refuse every other one. -/
theorem Config.readText_and_readPairs_iff :
    (∀ (v : Json) (a : Arg String), Arg.text? v = some a ↔ v.IsArg a) ∧
    (∀ (v : Json) (pairs : List Pair), pairsOf? v = some pairs ↔ v.ArePairs pairs) ∧
    (∀ entries : List (String × Json), (entries.map Prod.fst).Nodup →
      pairsOf? (.object entries) =
        pairsOf? (.array (entries.map fun e => .array [.string e.1, e.2]))) ∧
    ∀ (depth : Nat) (c c' : Cursor) (v : Json), Json.value depth c = .ok (v, c') →
      ((∀ a, readText depth c = .ok (a, c') ↔ v.IsArg a) ∧
        (readText depth c = failPending c' .noArg ↔ ∀ a, ¬ v.IsArg a)) ∧
      (∀ pairs, readPairs depth c = .ok (pairs, c') ↔ v.ArePairs pairs) ∧
        (readPairs depth c = failPending c' .noPairs ↔ ∀ pairs, ¬ v.ArePairs pairs) :=
  ⟨fun _ _ => Arg.text?_eq_some_iff, fun _ _ => pairsOf?_eq_some_iff,
    fun _ => pairsOf?_object_of_nodup, fun _ _ _ _ there =>
      ⟨readMatching_iff Arg.text?_eq_some_iff there .noArg,
        readMatching_iff pairsOf?_eq_some_iff there .noPairs⟩⟩

/-- A repeated key has its last value.  What is read as a pair is refused as an argument, and a list
of pairs is read like the object of the same entries. -/
theorem Config.readPairs_repeated_key :
    let c : Cursor := .start "\x7b\"a\":\"1\",\"a\":\x7b\"n\":\x7b\x7d,\"ref\":\"x\"\x7d\x7d".toList
    (Json.value 3 c = .ok (.object [("a", .string "1"),
        ("a", .object [("n", .object []), ("ref", .string "x")])], ⟨[], 32⟩) ∧
      readPairs 3 c = .ok ([(.literal "a", .reference "x")], ⟨[], 32⟩) ∧
      readText 3 c = failPending ⟨[], 32⟩ .noArg) ∧
    (["a", "b"].Nodup ∧ pairsOf? (.object [("a", .string "1"), ("b", .string "2")]) =
      pairsOf? (.array [.array [.string "a", .string "1"], .array [.string "b", .string "2"]])) := by
  intro c
  have there : Json.value 3 c = .ok (.object [("a", .string "1"),
      ("a", .object [("n", .object []), ("ref", .string "x")])], ⟨[], 32⟩) := by decide +kernel
  obtain ⟨args, pairs, sameList, readers⟩ := readText_and_readPairs_iff
  obtain ⟨⟨-, refuses⟩, reads, -⟩ := readers 3 c _ _ there
  have distinct : ["a", "b"].Nodup := by decide
  refine ⟨⟨there, (reads _).mpr ((pairs _ _).mp (by decide)), refuses.mpr fun a isArg => ?_⟩,
    distinct, sameList [("a", .string "1"), ("b", .string "2")] distinct⟩
  exact absurd ((args _ _).mpr isArg) (by simp [Arg.text?, Arg.ofJson?, valuesOf, textOf?])

end BodyCheck
