import BodyCheck.Command.Documents
import BodyCheck.Proofs.Documents

/-!
# Selecting the whole document

The filter `.` gives its input, but what it gives is written down and read again.  So it selects the
document with every number read from its own text (`Filter.select_identity_eq_ok_iff`).  Everything
but a double is the same again, and the document is kept exactly if its doubles are.
-/

namespace BodyCheck

/-! ## Documents that are kept -/

namespace Json

/-- Every double in the value is read back from its text. -/
def KeepsDoubles (v : Json) : Prop :=
  ∀ d, Number.double d ∈ v.numbers → (Number.double d).reread? = some (.double d)

/-- In a well-formed value every number is in its range. -/
theorem inRange_of_mem_numbers {v : Json} (wf : v.WellFormed) : ∀ n ∈ v.numbers, n.InRange := by
  induction v using partsInduction with
  | scalar v scalar =>
      cases v with
      | null | bool | string => exact fun n mem => absurd mem List.not_mem_nil
      | number n => exact List.forall_mem_singleton.mpr wf
      | array | object => cases scalar
  | array items ih =>
      rw [numbers, itemNumbers_eq, List.forall_mem_flatMap]
      exact fun w mem => ih w mem (wellFormedItems_iff.mp wf w mem)
  | object entries ih =>
      rw [numbers, entryNumbers_eq, List.forall_mem_flatMap]
      exact fun e mem => ih e mem (wellFormedEntries_iff.mp wf.2 e mem)

/-- Elements are read back unchanged exactly if each of them is. -/
theorem rereadItems?_eq_some_iff {items : List Json} :
    rereadItems? items = some items ↔ ∀ v ∈ items, v.reread? = some v := by
  induction items with
  | nil => simp [rereadItems?]
  | cons v items ih =>
      rw [rereadItems?, List.forall_mem_cons, ← ih]
      cases v.reread? <;> cases rereadItems? items <;> simp

theorem rereadEntries?_eq_some_iff {entries : List (String × Json)} :
    rereadEntries? entries = some entries ↔ ∀ e ∈ entries, e.2.reread? = some e.2 := by
  induction entries with
  | nil => simp [rereadEntries?]
  | cons e entries ih =>
      obtain ⟨k, v⟩ := e
      rw [rereadEntries?, List.forall_mem_cons, ← ih]
      cases v.reread? <;> cases rereadEntries? entries <;> simp

/-- A value is read back unchanged exactly if its numbers are. -/
theorem reread?_eq_some_iff_numbers {v : Json} :
    v.reread? = some v ↔ ∀ n ∈ v.numbers, n.reread? = some n := by
  induction v using partsInduction with
  | scalar v scalar =>
      cases v with
      | null | bool | string => simp [reread?, numbers]
      | number n => simp [reread?, numbers]
      | array | object => cases scalar
  | array items ih =>
      rw [numbers, itemNumbers_eq, List.forall_mem_flatMap, reread?, Option.map_eq_some_iff]
      simp only [array.injEq, exists_eq_right, rereadItems?_eq_some_iff]
      exact forall₂_congr ih
  | object entries ih =>
      rw [numbers, entryNumbers_eq, List.forall_mem_flatMap, reread?, Option.map_eq_some_iff]
      simp only [object.injEq, exists_eq_right, rereadEntries?_eq_some_iff]
      exact forall₂_congr ih

/-- A document is read back from its text exactly if its doubles are. -/
theorem reread?_eq_some_iff {v : Json} (wf : v.WellFormed) :
    v.reread? = some v ↔ v.KeepsDoubles := by
  rw [reread?_eq_some_iff_numbers]
  refine ⟨fun h d mem => h _ mem, fun h n mem => ?_⟩
  cases n with
  | integer n => exact Number.reread?_integer (inRange_of_mem_numbers wf _ mem)
  | double d => exact h d mem

/-- A number that is read is in its range. -/
theorem inRange_of_reread? {n m : Number} (h : n.reread? = some m) : m.InRange := by
  rw [Number.reread?] at h
  split at h
  · next found =>
      cases h
      exact (isDocument_of_read found).wellFormed
  · cases h

/-- The elements that are read are those that were written, one for one. -/
theorem forall₂_of_rereadItems? {items vs : List Json} (h : rereadItems? items = some vs) :
    List.Forall₂ (fun v w => v.reread? = some w) items vs := by
  induction items generalizing vs with
  | nil =>
      cases h
      exact .nil
  | cons v items ih =>
      obtain ⟨w, head, h⟩ := Option.bind_eq_some_iff.mp h
      obtain ⟨ws, tail, done⟩ := Option.bind_eq_some_iff.mp h
      cases done
      exact .cons head (ih tail)

/-- The entries that are read are those that were written, one for one and under their keys. -/
theorem forall₂_of_rereadEntries? {entries kvs : List (String × Json)}
    (h : rereadEntries? entries = some kvs) :
    List.Forall₂ (fun e f => e.1 = f.1 ∧ e.2.reread? = some f.2) entries kvs := by
  induction entries generalizing kvs with
  | nil =>
      cases h
      exact .nil
  | cons e entries ih =>
      obtain ⟨w, head, h⟩ := Option.bind_eq_some_iff.mp h
      obtain ⟨ws, tail, done⟩ := Option.bind_eq_some_iff.mp h
      cases done
      exact .cons ⟨rfl, head⟩ (ih tail)

/-- A well-formed value stays well formed when its numbers are read again. -/
theorem wellFormed_of_reread? {v w : Json} (wf : v.WellFormed) (h : v.reread? = some w) :
    w.WellFormed := by
  induction v using partsInduction generalizing w with
  | scalar v scalar =>
      cases v with
      | null | bool | string =>
          cases h
          trivial
      | number n =>
          obtain ⟨m, read, rfl⟩ := Option.map_eq_some_iff.mp h
          exact inRange_of_reread? read
      | array | object => cases scalar
  | array items ih =>
      obtain ⟨vs, read, rfl⟩ := Option.map_eq_some_iff.mp h
      refine wellFormedItems_iff.mpr fun u mem => ?_
      obtain ⟨v, here, same⟩ := exists_of_mem_right (forall₂_of_rereadItems? read) mem
      exact ih v here (wellFormedItems_iff.mp wf v here) same
  | object entries ih =>
      obtain ⟨kvs, read, rfl⟩ := Option.map_eq_some_iff.mp h
      have pairs := forall₂_of_rereadEntries? read
      have keys := map_fst_eq_of_forall₂ (pairs.imp fun _ _ h => h.1)
      refine ⟨keys ▸ wf.1, wellFormedEntries_iff.mpr fun f mem => ?_⟩
      obtain ⟨e, here, -, same⟩ := exists_of_mem_right pairs mem
      exact ih e here (wellFormedEntries_iff.mp wf.2 e here) same

/-- Reading the text of a document again gives the document with its numbers read again, whatever
the escapes. -/
theorem toOption_read_renderWith {escape : Char → List Char} (isEscape : IsEscape escape) {v : Json}
    (doc : v.IsDocument) : (read (v.renderWith escape)).toOption = v.reread? := by
  rw [toOption_read (reads_renderWith isEscape doc.depth_le)]
  cases known : v.reread? with
  | none => rfl
  | some w =>
      rw [Option.map_some, merged_of_wellFormed (wellFormed_of_reread? doc.wellFormed known)]

end Json

/-! ## Documents of filters -/

namespace Filter

/-- A double is never written as digits alone, so it is not mistaken for an integer. -/
theorem isDigits_render (d : Decimal) : isDigits (d.render .json) = false := by
  have shown : ∃ ch ∈ d.render .json, ch.isDigit = false := by
    rw [Decimal.render]
    split
    · exact ⟨'.', by simp, rfl⟩
    · split
      · refine ⟨'.', ?_, rfl⟩
        rw [Decimal.plain]
        split
        · simp
        · dsimp only
          split <;> simp
      · exact ⟨'e', by simp [Decimal.scientific], rfl⟩
  obtain ⟨ch, mem, no⟩ := shown
  rw [Bool.eq_false_iff]
  intro digits
  rw [(isDigits_iff.mp digits).2 ch mem] at no
  cases no

theorem Value.ofNumeral_minus (digits : List Char) :
    ofNumeral (String.ofList ('-' :: digits)) =
      if isDigits digits && fits (-(digitsValue digits : Int)) then
        .int (-(digitsValue digits : Int))
      else .numeral (String.ofList ('-' :: digits)) := by
  simp [ofNumeral]

theorem Value.ofNumeral_plain {text : List Char} (h : IsNumeral text) :
    ofNumeral (String.ofList text) =
      if isDigits text && fits (digitsValue text : Int) then .int (digitsValue text)
      else .numeral (String.ofList text) := by
  obtain ⟨ch, rest, rfl, digit⟩ := h.exists_cons
  have sign := ne_of_isDigit digit '-' rfl
  rw [ofNumeral, String.toList_ofList]
  split
  next negative digits unsigned =>
    split at unsigned
    · next same => exact absurd (List.cons.inj same).1 sign
    · cases unsigned
      rfl

/-- A number of a document is written the way it was read. -/
theorem Value.render_ofNumeral (n : Number) :
    (Value.ofNumeral (String.ofList (Json.numberText n))).render = Json.numberText n := by
  cases n with
  | integer n =>
      rw [Json.numberText]
      by_cases negative : n < 0
      · have text : Json.integerText n = '-' :: decimalDigits n.natAbs := by
          rw [Json.integerText, if_pos negative, List.singleton_append]
        rw [text, ofNumeral_minus, digitsValue_decimalDigits,
          Int.ofNat_natAbs_of_nonpos (by omega), Int.neg_neg, ← text]
        split
        · rfl
        · exact String.toList_ofList
      · have text : Json.integerText n = decimalDigits n.natAbs := by
          rw [Json.integerText, if_neg negative, List.nil_append]
        rw [text, ofNumeral_plain (isNumeral_decimalDigits _), digitsValue_decimalDigits,
          Int.natAbs_of_nonneg (by omega), ← text]
        split
        · rfl
        · exact String.toList_ofList
  | double d =>
      have digits := isDigits_render d.shortest
      rw [Json.numberText, Double.render]
      split
      · rw [List.singleton_append, ofNumeral_minus, digits]
        exact String.toList_ofList
      · rw [List.nil_append, ofNumeral_plain (Decimal.isNumeral_render _), digits]
        exact String.toList_ofList

theorem quoted_eq (s : String) : quoted s = Json.quotedWith escapeChar s := by
  rw [quoted, Json.quotedWith, List.cons_append]

theorem renderMoreItems_eq (items : List Value) :
    renderMoreItems items = followed ']' (items.map Value.render) := by
  induction items with
  | nil => rfl
  | cons v items ih => rw [renderMoreItems, ih, List.map_cons, followed]

theorem renderItems_eq (items : List Value) :
    renderItems items = listed ']' (items.map Value.render) := by
  cases items with
  | nil => rfl
  | cons v items => rw [renderItems, renderMoreItems_eq, List.map_cons, listed]

/-- The text of an entry. -/
def entryText (entry : String × Value) : List Char := quoted entry.1 ++ ':' :: entry.2.render

theorem renderMoreEntries_eq (entries : List (String × Value)) :
    renderMoreEntries entries = followed '\x7d' (entries.map entryText) := by
  induction entries with
  | nil => rfl
  | cons e entries ih =>
      rw [renderMoreEntries, ih, List.map_cons, followed, entryText, List.append_assoc,
        List.cons_append]

theorem renderEntries_eq (entries : List (String × Value)) :
    renderEntries entries = listed '\x7d' (entries.map entryText) := by
  cases entries with
  | nil => rfl
  | cons e entries =>
      rw [renderEntries, renderMoreEntries_eq, List.map_cons, listed, entryText, List.append_assoc,
        List.cons_append]

theorem ofJsonItems_eq (items : List Json) : ofJsonItems items = items.map Value.ofJson := by
  induction items with
  | nil => rfl
  | cons v items ih => rw [ofJsonItems, ih, List.map_cons]

theorem ofJsonEntries_eq (entries : List (String × Json)) :
    ofJsonEntries entries = entries.map fun e => (e.1, Value.ofJson e.2) := by
  induction entries with
  | nil => rfl
  | cons e entries ih => rw [ofJsonEntries, ih, List.map_cons]

/-- A filter writes a document as it stands, with its own escapes. -/
theorem Value.render_ofJson (v : Json) : (ofJson v).render = v.renderWith escapeChar := by
  induction v using Json.partsInduction with
  | scalar v scalar =>
      cases v with
      | null => rfl
      | bool b => cases b <;> rfl
      | number n => exact render_ofNumeral n
      | string s => exact quoted_eq s
      | array | object => cases scalar
  | array items ih =>
      rw [ofJson, render, Json.renderWith, renderItems_eq, Json.itemTexts_eq, ofJsonItems_eq,
        List.map_map]
      exact congrArg (fun texts => '[' :: listed ']' texts) (List.map_congr_left ih)
  | object entries ih =>
      rw [ofJson, render, Json.renderWith, renderEntries_eq, Json.entryTexts_eq, ofJsonEntries_eq,
        List.map_map]
      refine congrArg (fun texts => '\x7b' :: listed '\x7d' texts) (List.map_congr_left ?_)
      intro e mem
      rw [Function.comp_apply, entryText, Json.entryText, quoted_eq, ih e mem]

/-! ## The filter -/

theorem Term.parse_identity : parse "." = some .identity := by rfl

/-- The filter `.` holds no names. -/
theorem Term.resolve_identity : resolve "." = .ok .identity := by
  rw [resolve, parse_identity]
  simp only [isKnown, if_true]

/-- The filter `.` has its input as its only output. -/
theorem Term.outputs_identity (around : Surroundings) (v : Value) :
    outputs around .identity v = .one v := by
  rw [outputs]
  show run around (524287 + 1) 0 libraryBindings .identity v = .one v
  rw [run]

/-- The filter selects the document with its numbers read again. -/
theorem select_identity_eq_ok_iff (around : Surroundings) {v : Json} (doc : v.IsDocument)
    (w : Json) :
    select around "." v = .ok w ↔ v.reread? = some w := by
  have written : (Json.parse (Value.ofJson v).json).toOption = v.reread? := by
    rw [Json.toOption_parse, Value.json, String.toList_ofList, Value.render_ofJson,
      Json.toOption_read_renderWith isEscape_escapeChar doc]
  rw [select, Term.resolve_identity, ok_bind, Term.outputs_identity, ← written, Outputs.one,
    Outputs.documents]
  cases Json.parse (Value.ofJson v).json with
  | error message => simp [Except.toOption, Except.mapError]
  | ok u => simp [Except.toOption, Except.mapError, Outputs.documents, single]

/-- The filter keeps a document exactly if every double in it is read back from its text. -/
theorem select_identity_eq_self_iff (around : Surroundings) {v : Json} (doc : v.IsDocument) :
    select around "." v = .ok v ↔ v.KeepsDoubles := by
  rw [select_identity_eq_ok_iff around doc, Json.reread?_eq_some_iff doc.wellFormed]

end Filter

/-! ## Bodies -/

theorem Json.IsDocument.descend? {tokens : List (List Char)} {v w : Json} (doc : v.IsDocument)
    (h : descend? tokens v = some w) : w.IsDocument := by
  induction tokens generalizing v with
  | nil =>
      cases h
      exact doc
  | cons token tokens ih =>
      obtain ⟨u, here, below⟩ := Option.bind_eq_some_iff.mp h
      refine ih ?_ below
      unfold child? at here
      split at here
      · next entries =>
          exact doc.child (mem_children_iff.mpr (.inr ⟨entries, _, rfl, rfl, mem_of_lookup here⟩))
      · next items =>
          obtain ⟨i, -, found⟩ := Option.bind_eq_some_iff.mp here
          exact doc.child (mem_children_iff.mpr (.inl ⟨items, i, rfl, rfl, found⟩))
      · cases here

theorem Selection.isDocument_of_byPointer {s : Selection} {v found : Json} (doc : v.IsDocument)
    (h : s.byPointer v = .ok found) : found.IsDocument := by
  rw [byPointer] at h
  split at h
  · cases h
    exact doc
  · split at h
    · next leads =>
        cases h
        rw [Json.pointer?] at leads
        split at leads
        · cases leads
          exact doc
        · exact doc.descend? leads
        · cases leads
    · cases h

/-- Selecting with the filter `.` gives the document with its numbers read again, whatever lies
around it.  It is the same document exactly if every double is read back from its text, and so are
the bodies that a pointer names. -/
theorem Filter.select_identity (around : Surroundings) {text : String} {v : Json}
    (h : Json.parse text = .ok v) :
    (∀ w, select around "." v = .ok w ↔ v.reread? = some w) ∧
      (select around "." v = .ok v ↔ v.KeepsDoubles) ∧
      ∀ (pointer : Option String) (label : String),
        (Selection.mk pointer (some ".")).read around ⟨label, text⟩ =
            (Selection.mk pointer none).read around ⟨label, text⟩ ↔
          ∀ found, (Selection.mk pointer none).byPointer v = .ok found → found.KeepsDoubles := by
  have doc := Json.isDocument_of_parse h
  refine ⟨select_identity_eq_ok_iff around doc, select_identity_eq_self_iff around doc,
    fun pointer label => ?_⟩
  have read : ∀ s : Selection, s.read around ⟨label, text⟩ = do
      let body ← (s.body around v).mapError (.noBody label)
      return ⟨label, body⟩ := fun s => by
    rw [Selection.read, h]
    rfl
  have same : (Selection.mk pointer (some ".")).byPointer v =
      (Selection.mk pointer none).byPointer v := rfl
  rw [read, read]
  cases outcome : (Selection.mk pointer none).byPointer v with
  | error e =>
      simp only [Selection.body, same, outcome, error_bind]
      exact iff_of_true trivial fun found no => by cases no
  | ok found =>
      have kept :=
        select_identity_eq_self_iff around (Selection.isDocument_of_byPointer doc outcome)
      simp only [Selection.body, same, outcome, ok_bind, Except.ok.injEq, forall_eq']
      rw [← kept]
      cases selected : select around "." found with
      | error e => simp [Selection.byFilter, selected, Except.mapError]
      | ok w => simp [Selection.byFilter, selected, Except.mapError, pure, Except.pure]

/-- The filter keeps a document with a whole number that needs all 64 bits, a double, and a string
with an escape. -/
theorem Filter.select_identity_array :
    let around : Surroundings := { now := { seconds := 0 } }
    ∃ v, Json.parse "[18446744073709551615,1.5,\"\\u000a\"]" = .ok v ∧
      select around "." v = .ok v := by
  intro around
  have parsed : Json.parse "[18446744073709551615,1.5,\"\\u000a\"]" = .ok (.array
      [.number (.integer 18446744073709551615),
        .number (.double ⟨false, 4609434218613702656, by decide⟩), .string "\n"]) := by
    decide +kernel
  refine ⟨_, parsed, (select_identity around parsed).2.1.mpr fun d mem => ?_⟩
  obtain rfl : d = ⟨false, 4609434218613702656, by decide⟩ := by
    simpa [Json.numbers, Json.itemNumbers] using mem
  decide +kernel

/-- The filter changes a double whose digits are not read back. -/
theorem Filter.select_identity_changes_double :
    let around : Surroundings := { now := { seconds := 0 } }
    ∃ v w, Json.parse "123456789.123456789" = .ok v ∧ select around "." v = .ok w ∧ v ≠ w ∧
      v.text = "123456789.12345679" ∧ w.text = "123456789.1234568" := by
  intro around
  have parsed : Json.parse "123456789.123456789" =
      .ok (.number (.double ⟨false, 4728057454355442549, by decide⟩)) := by decide +kernel
  refine ⟨_, .number (.double ⟨false, 4728057454355442550, by decide⟩), parsed, ?_, by decide,
    by decide +kernel, by decide +kernel⟩
  rw [select_identity_eq_ok_iff around (Json.isDocument_of_parse parsed)]
  decide +kernel

end BodyCheck
