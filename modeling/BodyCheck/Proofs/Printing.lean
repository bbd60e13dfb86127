import BodyCheck.Proofs.Nodes
import BodyCheck.Proofs.Numerals

/-!
# Reading what was written

The compact text of a value can be written with different escapes (`Json.renderWith`).  Whatever
they are, the text is read as the value with every number read from its own text (`Json.reread?`),
as long as the value is not nested too deep (`Json.reads_renderWith`).  Keys, strings and the order
of everything stay as they are.
-/

namespace BodyCheck

/-! ## Lists of texts -/

/-- The texts behind another one, up to the closing bracket. -/
def followed (close : Char) : List (List Char) → List Char
  | [] => [close]
  | text :: rest => ',' :: (text ++ followed close rest)

/-- The texts between two commas each, up to the closing bracket. -/
def listed (close : Char) : List (List Char) → List Char
  | [] => [close]
  | text :: rest => text ++ followed close rest

/-- The text starts with a character that may open a value, and closes no array. -/
def StartsValue : List Char → Prop
  | [] => False
  | ch :: _ => Cursor.isBlank ch = false ∧ ch ≠ ']'

theorem StartsValue.exists_cons {text : List Char} (h : StartsValue text) :
    ∃ ch rest, text = ch :: rest ∧ Cursor.isBlank ch = false ∧ ch ≠ ']' := by
  cases text with
  | nil => exact h.elim
  | cons ch rest => exact ⟨ch, rest, rfl, h⟩

/-- The bracket or comma behind a text ends a value. -/
theorem endsValue_followed {close : Char} (h : close = ']' ∨ close = '\x7d')
    (texts : List (List Char)) (rest : List Char) : EndsValue (followed close texts ++ rest) := by
  cases texts with
  | nil => exact .inr h
  | cons text texts => exact .inl rfl

/-- Every text in a list takes one character at least, its comma. -/
theorem length_lt_length_followed (close : Char) (texts : List (List Char)) :
    texts.length < (followed close texts).length := by
  induction texts with
  | nil => exact Nat.one_pos
  | cons text texts ih =>
      rw [followed, List.length_cons, List.length_cons, List.length_append]
      omega

/-- There are fewer commas in a list than characters. -/
theorem length_lt_length_listed (close : Char) (text : List Char) (texts : List (List Char))
    (rest : List Char) : texts.length < (listed close (text :: texts) ++ rest).length := by
  have := length_lt_length_followed close texts
  rw [listed, List.length_append, List.length_append]
  omega

namespace Json

/-! ## Writing with any escapes -/

section

variable (escape : Char → List Char)

/-- A string between quotes. -/
def quotedWith (s : String) : List Char := '"' :: (s.toList.flatMap escape ++ ['"'])

mutual

/-- A value in compact form. -/
def renderWith : Json → List Char
  | .null => ['n', 'u', 'l', 'l']
  | .bool true => ['t', 'r', 'u', 'e']
  | .bool false => ['f', 'a', 'l', 's', 'e']
  | .number n => numberText n
  | .string s => quotedWith escape s
  | .array items => '[' :: listed ']' (itemTexts items)
  | .object entries => '\x7b' :: listed '\x7d' (entryTexts entries)

/-- The elements of an array, each in compact form. -/
def itemTexts : List Json → List (List Char)
  | [] => []
  | v :: rest => v.renderWith :: itemTexts rest

/-- The entries of an object, each in compact form. -/
def entryTexts : List (String × Json) → List (List Char)
  | [] => []
  | (k, v) :: rest => (quotedWith escape k ++ ':' :: v.renderWith) :: entryTexts rest

end

end

/-! ## Reading again -/

mutual

/-- The value with every number as it is read from its text. -/
def reread? : Json → Option Json
  | .number n => n.reread?.map .number
  | .array items => (rereadItems? items).map .array
  | .object entries => (rereadEntries? entries).map .object
  | v => some v

/-- The elements, each with its numbers read again. -/
def rereadItems? : List Json → Option (List Json)
  | [] => some []
  | v :: rest => do return (← v.reread?) :: (← rereadItems? rest)

/-- The entries, each with its numbers read again. -/
def rereadEntries? : List (String × Json) → Option (List (String × Json))
  | [] => some []
  | (k, v) :: rest => do return (k, ← v.reread?) :: (← rereadEntries? rest)

end

end Json

/-! ## Loops -/

section

variable {ε α : Type} {reader : Cursor → Except ε (α × Cursor)} {text rest : List Char}

/-- A text that is read as something is taken off whole. -/
theorem Reads.exists_ok {a : α} (h : Reads reader text (some a)) (ends : EndsValue rest)
    (offset : Nat) : ∃ offset', reader ⟨text ++ rest, offset⟩ = .ok (a, ⟨rest, offset'⟩) := by
  have whole := h rest offset ends
  cases outcome : reader ⟨text ++ rest, offset⟩ with
  | error e =>
      rw [outcome] at whole
      cases whole
  | ok y =>
      obtain ⟨b, left, offset'⟩ := y
      rw [outcome] at whole
      cases whole
      exact ⟨offset', rfl⟩

/-- A text that is read as nothing fails. -/
theorem Reads.exists_error (h : Reads reader text none) (ends : EndsValue rest) (offset : Nat) :
    ∃ e, reader ⟨text ++ rest, offset⟩ = .error e := by
  have whole := h rest offset ends
  cases outcome : reader ⟨text ++ rest, offset⟩ with
  | error e => exact ⟨e, rfl⟩
  | ok y =>
      rw [outcome] at whole
      cases whole

end

@[simp] theorem Cursor.under_ok {α : Type} (step : Step) (a : α) :
    under step (.ok a) = .ok a := rfl

@[simp] theorem Cursor.under_error {α : Type} (step : Step) (f : Fault) :
    under (α := α) step (.error f) = .error (f.under step) := rfl

theorem Cursor.under_eq_ok_iff {α : Type} {step : Step} {x : Except Fault α} {a : α} :
    under step x = .ok a ↔ x = .ok a := by
  cases x <;> simp

namespace Json

variable {item : Reader Json} {text : Json → List Char} {result : Json → Option Json}

/-- Elements that are read one by one are read as a list. -/
theorem taken_elements {v : Json} {items : List Json}
    (h : ∀ w ∈ v :: items, Reads item (text w) (result w) ∧ StartsValue (text w)) (rest : List Char)
    {bound : Nat} (long : items.length < bound) (index offset : Nat) :
    taken (elements item bound index ⟨listed ']' ((v :: items).map text) ++ rest, offset⟩) =
      ((v :: items).mapM result).map fun vs => (vs, rest) := by
  induction bound generalizing v items index offset with
  | zero => exact absurd long (Nat.not_lt_zero _)
  | succ n ih =>
      obtain ⟨reads, -⟩ := h v (List.mem_cons_self ..)
      have ends := endsValue_followed (.inl rfl) (items.map text) rest
      rw [List.map_cons, listed, List.append_assoc, elements, List.mapM_cons]
      cases known : result v with
      | none =>
          rw [known] at reads
          obtain ⟨f, fails⟩ := reads.exists_error ends offset
          rw [fails]
          rfl
      | some w =>
          rw [known] at reads
          obtain ⟨offset', succeeds⟩ := reads.exists_ok ends offset
          rw [succeeds]
          cases items with
          | nil => rfl
          | cons u items =>
              have behind := ih (fun w mem => h w (List.mem_cons_of_mem _ mem))
                (Nat.lt_of_succ_lt_succ long) (index + 1) (offset' + 1)
              obtain ⟨ch, more, front, shown, bracket⟩ := (h u (by simp)).2.exists_cons
              have opened : listed ']' ((u :: items).map text) ++ rest =
                  ch :: (more ++ followed ']' (items.map text) ++ rest) := by
                rw [List.map_cons, listed, front, List.cons_append, List.cons_append]
              rw [opened] at behind
              rw [List.map_cons, listed] at opened
              simp only [ok_bind, Cursor.under_ok, List.map_cons, followed, List.cons_append]
              rw [Cursor.skipBlanks_cons (by decide)]
              split
              · next no => cases no
              · next no => cases no
              · next comma =>
                  cases comma
                  rw [opened, Cursor.skipBlanks_cons shown]
                  split
                  · next no => cases no
                  · next no => exact absurd (List.cons.inj no).1 bracket
                  · refine (taken_eq_map (fun vs => w :: vs) rfl).trans ?_
                    rw [behind]
                    cases List.mapM result (u :: items) <;> rfl
              · next other comma => exact absurd (List.cons.inj comma).1.symm other

variable {escape : Char → List Char} (isEscape : IsEscape escape)

include isEscape

/-- The key of a member is read off its quoted form. -/
theorem exists_key_eq (k : String) (rest : List Char) (offset : Nat) :
    ∃ offset', key ⟨quotedWith escape k ++ rest, offset⟩ = .ok (k, ⟨rest, offset'⟩) := by
  have whole := taken_stringPart isEscape k rest (offset + 1)
  rw [quotedWith, List.cons_append, List.append_assoc, List.singleton_append, key]
  cases outcome : stringPart ⟨k.toList.flatMap escape ++ '"' :: rest, offset + 1⟩ with
  | error f =>
      rw [outcome] at whole
      cases whole
  | ok y =>
      obtain ⟨b, left, offset'⟩ := y
      rw [outcome] at whole
      cases whole
      exact ⟨offset', by simp only [outcome, Cursor.under_ok]⟩

omit isEscape in
theorem colon_cons (rest : List Char) (offset : Nat) :
    colon ⟨':' :: rest, offset⟩ = .ok ⟨rest, offset + 1⟩ := rfl

/-- The text of an entry. -/
def entryText (escape : Char → List Char) (text : Json → List Char) (entry : String × Json) :
    List Char :=
  quotedWith escape entry.1 ++ ':' :: text entry.2

/-- Members that are read one by one are read as a list. -/
theorem taken_members {entry : String × Json} {entries : List (String × Json)}
    (h : ∀ e ∈ entry :: entries, Reads item (text e.2) (result e.2)) (rest : List Char)
    {bound : Nat} (long : entries.length < bound) (offset : Nat) :
    taken (members item bound
        ⟨listed '\x7d' ((entry :: entries).map (entryText escape text)) ++ rest, offset⟩) =
      ((entry :: entries).mapM fun e => (result e.2).map (e.1, ·)).map fun kvs => (kvs, rest) := by
  induction bound generalizing entry entries offset with
  | zero => exact absurd long (Nat.not_lt_zero _)
  | succ n ih =>
      obtain ⟨k, v⟩ := entry
      have reads := h (k, v) (List.mem_cons_self ..)
      have ends := endsValue_followed (.inr rfl) (entries.map (entryText escape text)) rest
      rw [List.map_cons, listed, List.append_assoc, entryText, List.append_assoc, members,
        List.mapM_cons]
      obtain ⟨offset₁, named⟩ := exists_key_eq isEscape k (':' :: text v ++
        (followed '\x7d' (entries.map (entryText escape text)) ++ rest)) offset
      rw [named]
      cases known : result v with
      | none =>
          rw [known] at reads
          obtain ⟨f, fails⟩ := reads.exists_error ends (offset₁ + 1)
          simp only [ok_bind, List.cons_append, colon_cons, fails, Cursor.under_error, error_bind,
            taken_error]
          rfl
      | some w =>
          rw [known] at reads
          obtain ⟨offset₂, succeeds⟩ := reads.exists_ok ends (offset₁ + 1)
          simp only [ok_bind, List.cons_append, colon_cons, succeeds, Cursor.under_ok]
          cases entries with
          | nil => rfl
          | cons e entries =>
              have behind := ih (fun e mem => h e (List.mem_cons_of_mem _ mem))
                (Nat.lt_of_succ_lt_succ long) (offset₂ + 1)
              refine (taken_eq_map (x := members item n
                ⟨listed '\x7d' ((e :: entries).map (entryText escape text)) ++ rest, offset₂ + 1⟩)
                (fun kvs => (k, w) :: kvs) rfl).trans ?_
              rw [behind]
              cases List.mapM (fun e => (result e.2).map (e.1, ·)) (e :: entries) <;> rfl

omit isEscape

/-! ## Values -/

/-- What passes from the elements of arrays and from the values of objects to them, and holds of
scalars, holds of all values. -/
@[elab_as_elim]
theorem partsInduction {motive : Json → Prop}
    (scalar : ∀ v : Json, v.isContainer = false → motive v)
    (array : ∀ items, (∀ w ∈ items, motive w) → motive (.array items))
    (object : ∀ entries, (∀ entry ∈ entries, motive entry.2) → motive (.object entries))
    (v : Json) : motive v := by
  induction v using childInduction with
  | parent v ih =>
      cases v with
      | null | bool | number | string => exact scalar _ rfl
      | array items =>
          refine array items fun w mem => ?_
          obtain ⟨i, at_index⟩ := List.getElem?_of_mem mem
          exact ih (.index i) w (mem_children_iff.mpr (.inl ⟨items, i, rfl, rfl, at_index⟩))
      | object entries =>
          exact object entries fun entry mem => ih (.key entry.1) entry.2
            (mem_children_iff.mpr (.inr ⟨entries, entry.1, rfl, rfl, mem⟩))

theorem itemTexts_eq (escape : Char → List Char) (items : List Json) :
    itemTexts escape items = items.map (renderWith escape) := by
  induction items with
  | nil => rfl
  | cons v items ih => rw [itemTexts, ih, List.map_cons]

theorem entryTexts_eq (escape : Char → List Char) (entries : List (String × Json)) :
    entryTexts escape entries = entries.map (entryText escape (renderWith escape)) := by
  induction entries with
  | nil => rfl
  | cons entry entries ih => rw [entryTexts, ih, List.map_cons, entryText]

/-- An array is read again if all its elements are. -/
theorem rereadItems?_eq (items : List Json) : rereadItems? items = items.mapM reread? := by
  induction items with
  | nil => rfl
  | cons v items ih => rw [rereadItems?, ih, List.mapM_cons]

theorem rereadEntries?_eq (entries : List (String × Json)) :
    rereadEntries? entries = entries.mapM fun e => e.2.reread?.map (e.1, ·) := by
  induction entries with
  | nil => rfl
  | cons entry entries ih =>
      rw [rereadEntries?, ih, List.mapM_cons]
      cases entry.2.reread? <;> rfl

/-- No element is deeper than all elements together. -/
theorem depth_le_depthItems {v : Json} {items : List Json} (h : v ∈ items) :
    v.depth ≤ depthItems items := by
  induction items with
  | nil => cases h
  | cons w items ih =>
      rw [depthItems]
      rcases List.mem_cons.mp h with rfl | h
      · exact Nat.le_max_left ..
      · exact Nat.le_trans (ih h) (Nat.le_max_right ..)

theorem depth_le_depthEntries {entry : String × Json} {entries : List (String × Json)}
    (h : entry ∈ entries) : entry.2.depth ≤ depthEntries entries := by
  induction entries with
  | nil => cases h
  | cons other entries ih =>
      rw [depthEntries]
      rcases List.mem_cons.mp h with rfl | h
      · exact Nat.le_max_left ..
      · exact Nat.le_trans (ih h) (Nat.le_max_right ..)

theorem startsValue_numberText (n : Number) : StartsValue (numberText n) := by
  obtain ⟨text, numeral, unsigned | signed⟩ := n.exists_isNumeral
  · obtain ⟨ch, rest, rfl, digit⟩ := numeral.exists_cons
    rw [unsigned]
    exact ⟨isBlank_of_isDigit digit, ne_of_isDigit digit ']' rfl⟩
  · rw [signed]
    exact ⟨rfl, by decide⟩

/-- The text of a value starts with a character that opens a value. -/
theorem startsValue_renderWith (escape : Char → List Char) (v : Json) :
    StartsValue (v.renderWith escape) := by
  cases v with
  | null => exact ⟨rfl, by decide⟩
  | bool b => cases b <;> exact ⟨rfl, by decide⟩
  | number n => exact startsValue_numberText n
  | string s => exact ⟨rfl, by decide⟩
  | array items => exact ⟨rfl, by decide⟩
  | object entries => exact ⟨rfl, by decide⟩

/-- An array is read off the texts of its elements, also if there are none. -/
theorem taken_arrayPart {items : List Json}
    (h : ∀ w ∈ items, Reads item (text w) (result w) ∧ StartsValue (text w)) (rest : List Char)
    (offset : Nat) : taken (arrayPart item ⟨listed ']' (items.map text) ++ rest, offset⟩) =
      (items.mapM result).map fun vs => (vs, rest) := by
  cases items with
  | nil => rfl
  | cons v items =>
      obtain ⟨ch, more, front, shown, bracket⟩ := (h v (List.mem_cons_self ..)).2.exists_cons
      have opened : listed ']' ((v :: items).map text) ++ rest =
          ch :: (more ++ followed ']' (items.map text) ++ rest) := by
        rw [List.map_cons, listed, front, List.cons_append, List.cons_append]
      have long := length_lt_length_listed ']' (text v) (items.map text) rest
      rw [List.length_map, ← List.map_cons] at long
      have behind := taken_elements h rest long 0 offset
      rw [opened] at behind ⊢
      rw [arrayPart, Cursor.skipBlanks_cons shown]
      dsimp only
      split
      · next no => cases no
      · next no => exact absurd (List.cons.inj no).1 bracket
      · exact behind

include isEscape in
/-- An object is read off the texts of its members, also if there are none. -/
theorem taken_objectPart {entries : List (String × Json)}
    (h : ∀ e ∈ entries, Reads item (text e.2) (result e.2)) (rest : List Char) (offset : Nat) :
    taken (objectPart item
        ⟨listed '\x7d' (entries.map (entryText escape text)) ++ rest, offset⟩) =
      (entries.mapM fun e => (result e.2).map (e.1, ·)).map fun kvs => (kvs, rest) := by
  cases entries with
  | nil => rfl
  | cons e entries =>
      have long := length_lt_length_listed '\x7d' (entryText escape text e)
        (entries.map (entryText escape text)) rest
      rw [List.length_map] at long
      exact taken_members isEscape h rest long offset

include isEscape in
/-- The text of a value that is not nested too deep is read as the value with its numbers read
again. -/
theorem reads_renderWith {v : Json} {depth : Nat} (h : v.depth ≤ depth) :
    Reads (value depth) (v.renderWith escape) v.reread? := by
  induction v using partsInduction generalizing depth with
  | scalar v scalar =>
      obtain ⟨item, form⟩ := exists_value_eq depth
      cases v with
      | null => exact fun rest offset _ => by rw [form]; rfl
      | bool b => cases b <;> exact fun rest offset _ => by rw [form]; rfl
      | number n => exact n.reads_reread? depth
      | string s =>
          intro rest offset _
          rw [form, renderWith, quotedWith, List.cons_append, List.append_assoc]
          refine (taken_eq_map (x := stringPart ⟨s.toList.flatMap escape ++ '"' :: rest, offset + 1⟩)
            Json.string rfl).trans ?_
          rw [taken_stringPart isEscape]
          rfl
      | array | object => cases scalar
  | array items ih =>
      obtain ⟨d, rfl⟩ : ∃ d, depth = d + 1 := ⟨depth - 1, by rw [Json.depth] at h; omega⟩
      rw [Json.depth] at h
      have parts : ∀ w ∈ items, Reads (value d) (w.renderWith escape) w.reread? ∧
          StartsValue (w.renderWith escape) := fun w mem =>
        ⟨ih w mem (Nat.le_trans (depth_le_depthItems mem) (Nat.le_of_succ_le_succ h)),
          startsValue_renderWith escape w⟩
      intro rest offset _
      refine (taken_eq_map (x := arrayPart (value d)
        ⟨listed ']' (itemTexts escape items) ++ rest, offset + 1⟩) Json.array rfl).trans ?_
      rw [itemTexts_eq, taken_arrayPart parts rest, reread?, rereadItems?_eq, Option.map_map,
        Option.map_map]
      rfl
  | object entries ih =>
      obtain ⟨d, rfl⟩ : ∃ d, depth = d + 1 := ⟨depth - 1, by rw [Json.depth] at h; omega⟩
      rw [Json.depth] at h
      have parts : ∀ e ∈ entries, Reads (value d) (e.2.renderWith escape) e.2.reread? :=
        fun e mem => ih e mem (Nat.le_trans (depth_le_depthEntries mem) (Nat.le_of_succ_le_succ h))
      intro rest offset _
      refine (taken_eq_map (x := objectPart (value d)
        ⟨listed '\x7d' (entryTexts escape entries) ++ rest, offset + 1⟩) Json.object rfl).trans ?_
      rw [entryTexts_eq, taken_objectPart isEscape parts rest, reread?, rereadEntries?_eq,
        Option.map_map, Option.map_map]
      rfl

/-! ## The compact form -/

theorem quoted_eq (s : String) : quoted s = quotedWith escapeChar s := by
  have escaped : ∀ chars, escapeChars chars = chars.flatMap escapeChar := by
    intro chars
    induction chars with
    | nil => rfl
    | cons ch chars ih => rw [escapeChars, ih, List.flatMap_cons]
  rw [quoted, quotedWith, escaped, List.cons_append]

theorem renderMoreItems_eq (items : List Json) :
    renderMoreItems items = followed ']' (items.map render) := by
  induction items with
  | nil => rfl
  | cons v items ih => rw [renderMoreItems, ih, List.map_cons, followed]

theorem renderItems_eq (items : List Json) : renderItems items = listed ']' (items.map render) := by
  cases items with
  | nil => rfl
  | cons v items => rw [renderItems, renderMoreItems_eq, List.map_cons, listed]

theorem renderMoreEntries_eq (entries : List (String × Json)) :
    renderMoreEntries entries = followed '\x7d' (entries.map (entryText escapeChar render)) := by
  induction entries with
  | nil => rfl
  | cons e entries ih =>
      rw [renderMoreEntries, ih, List.map_cons, followed, entryText, quoted_eq, List.append_assoc,
        List.cons_append]

theorem renderEntries_eq (entries : List (String × Json)) :
    renderEntries entries = listed '\x7d' (entries.map (entryText escapeChar render)) := by
  cases entries with
  | nil => rfl
  | cons e entries =>
      rw [renderEntries, renderMoreEntries_eq, List.map_cons, listed, entryText, quoted_eq,
        List.append_assoc, List.cons_append]

/-- The compact text is one of those with any escapes. -/
theorem render_eq_renderWith (v : Json) : v.render = v.renderWith escapeChar := by
  induction v using partsInduction with
  | scalar v scalar =>
      cases v with
      | null => rfl
      | bool b => cases b <;> rfl
      | number n => rfl
      | string s => rw [render, renderWith, quoted_eq]
      | array | object => cases scalar
  | array items ih =>
      rw [render, renderWith, renderItems_eq, itemTexts_eq, List.map_congr_left ih]
  | object entries ih =>
      rw [render, renderWith, renderEntries_eq, entryTexts_eq]
      refine congrArg (fun texts => '\x7b' :: listed '\x7d' texts) (List.map_congr_left ?_)
      intro e mem
      rw [entryText, entryText, ih e mem]

end Json

end BodyCheck
