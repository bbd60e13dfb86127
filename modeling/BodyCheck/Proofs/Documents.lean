import BodyCheck.Proofs.Addresses
import BodyCheck.Proofs.Printing

/-!
# What a document can hold

Every value that is read is well formed and has a bounded depth (`Json.isDocument_of_read`): no
whole number is read beyond its range, a container too much is refused, and merging leaves distinct
keys.  A well-formed value does not change when its keys are merged (`Json.merged_of_wellFormed`).
-/

namespace BodyCheck

namespace Json

/-! ## Numbers in range -/

section

variable {n : Number} {c c' : Cursor}

/-- A number with a fraction or an exponent is a double, and doubles have no range. -/
theorem inRange_of_scaled {negative : Bool} {significand : Nat} {exponent : Int}
    (h : scaled negative significand exponent c = .ok (n, c')) : n.InRange := by
  have stored : ∀ d : Option Double, signed negative c d = .ok (n, c') → n.InRange := by
    rintro (_ | d) h
    · cases h
    · cases h
      trivial
  rw [scaled] at h
  exact stored _ h

theorem inRange_of_exponentValue {negative minus : Bool} {significand : Nat} {exponent : Int}
    (h : exponentValue negative significand exponent minus c = .ok (n, c')) : n.InRange := by
  rw [exponentValue] at h
  split at h
  · cases h
  · split at h
    · dsimp only at h
      split at h
      · exact inRange_of_scaled h
      · split at h
        · cases h
        · cases h
          trivial
    · cases h

theorem inRange_of_exponentPart {negative : Bool} {significand : Nat} {exponent : Int}
    (h : exponentPart negative significand exponent c = .ok (n, c')) : n.InRange := by
  rw [exponentPart] at h
  split at h <;> exact inRange_of_exponentValue h

/-- With an exponent or without one, the number is in range if both readers keep the range. -/
theorem inRange_of_exponentOr {exponent plain : Reader Number}
    (hx : ∀ {c n c'}, exponent c = .ok (n, c') → n.InRange)
    (hp : ∀ {c n c'}, plain c = .ok (n, c') → n.InRange)
    (h : exponentOr exponent plain c = .ok (n, c')) : n.InRange := by
  rw [exponentOr] at h
  split at h
  · exact hx h
  · exact hx h
  · exact hp h

theorem inRange_of_fractionPart {negative : Bool} {significand : Nat} {exponent : Int}
    (h : fractionPart negative significand exponent c = .ok (n, c')) : n.InRange := by
  rw [fractionPart] at h
  dsimp only at h
  split at h
  · split at h <;> cases h
  · exact inRange_of_exponentOr inRange_of_exponentPart inRange_of_scaled h

/-- Gathering stops in front of the digit that would not fit into 64 bits. -/
theorem gather_lt {significand : Nat} (h : significand < Nat.pow 2 64) (digits : List Char) :
    (gather significand digits).1 < Nat.pow 2 64 := by
  induction digits generalizing significand with
  | nil => exact h
  | cons ch rest ih =>
      rw [gather_cons]
      split
      · next within => exact ih within
      · exact h

/-- A magnitude of 64 bits is kept as a whole number if its sign allows it, and else as a double. -/
theorem inRange_of_whole {negative : Bool} {magnitude : Nat} (fits : magnitude < Nat.pow 2 64)
    (h : whole negative magnitude c = .ok (n, c')) : n.InRange := by
  rw [whole] at h
  split at h
  · cases h
    have : (0 : Int) ≤ Nat.pow 2 63 := Int.natCast_nonneg _
    exact ⟨by omega, by exact_mod_cast fits⟩
  · split at h
    · next within =>
        cases h
        have : (0 : Int) ≤ Nat.pow 2 64 := Int.natCast_nonneg _
        exact ⟨by omega, by omega⟩
    · exact inRange_of_scaled h

/-- The digits in front of a number are gathered, and what follows them decides what becomes of
them. -/
theorem inRange_of_afterWhole {negative : Bool} {digits : List Char}
    (h : afterWhole negative digits c = .ok (n, c')) : n.InRange := by
  have fits := gather_lt (show 0 < Nat.pow 2 64 by decide) digits
  rw [afterWhole] at h
  dsimp only at h
  split at h
  · exact inRange_of_fractionPart h
  · refine inRange_of_exponentOr inRange_of_exponentPart (fun {c n c'} h => ?_) h
    rw [wholePart] at h
    split at h
    · exact inRange_of_whole fits h
    · exact inRange_of_scaled h

/-- No whole number is read beyond its range. -/
theorem inRange_of_numberPart {negative : Bool} (h : numberPart negative c = .ok (n, c')) :
    n.InRange := by
  rw [numberPart] at h
  split at h
  · cases h
  · split at h
    · split at h
      · split at h
        · cases h
        · exact inRange_of_afterWhole h
      · exact inRange_of_afterWhole h
    · split at h
      · exact inRange_of_afterWhole h
      · cases h

end

/-! ## Readers of containers -/

section

variable {item : Reader Json} {P : Json → Prop} (h : ∀ {c v c'}, item c = .ok (v, c') → P v)

include h

/-- What holds of everything that the reader of elements gives holds of all elements. -/
theorem of_mem_elements {bound index : Nat} {c c' : Cursor} {vs : List Json}
    (read : elements item bound index c = .ok (vs, c')) : ∀ v ∈ vs, P v := by
  induction bound generalizing index c vs with
  | zero => cases read
  | succ n ih =>
      rw [elements] at read
      obtain ⟨⟨v, c₁⟩, first, read⟩ := exists_of_bind_eq_ok read
      have head : P v := h (Cursor.under_eq_ok_iff.mp first)
      dsimp only at read
      -- What follows an element is the closing bracket, a comma, or nothing that can be read.
      split at read
      · cases read
      · cases read
        exact List.forall_mem_singleton.mpr head
      · split at read
        · cases read
        · cases read
        · obtain ⟨⟨vs, c₂⟩, rest, done⟩ := exists_of_bind_eq_ok read
          cases done
          exact List.forall_mem_cons.mpr ⟨head, ih rest⟩
      · cases read

theorem of_mem_arrayPart {c c' : Cursor} {vs : List Json}
    (read : arrayPart item c = .ok (vs, c')) : ∀ v ∈ vs, P v := by
  rw [arrayPart] at read
  split at read
  · cases read
  · cases read
    exact fun v mem => absurd mem List.not_mem_nil
  · exact of_mem_elements h read

/-- What holds of everything that the reader of values gives holds of the values of all members. -/
theorem of_mem_members {bound : Nat} {c c' : Cursor} {kvs : List (String × Json)}
    (read : members item bound c = .ok (kvs, c')) : ∀ e ∈ kvs, P e.2 := by
  induction bound generalizing c kvs with
  | zero => cases read
  | succ n ih =>
      rw [members] at read
      obtain ⟨⟨k, c₁⟩, -, read⟩ := exists_of_bind_eq_ok read
      obtain ⟨c₂, -, read⟩ := exists_of_bind_eq_ok read
      obtain ⟨⟨v, c₃⟩, first, read⟩ := exists_of_bind_eq_ok read
      have head : P v := h (Cursor.under_eq_ok_iff.mp first)
      dsimp only at read
      split at read
      · cases read
      · cases read
        exact List.forall_mem_singleton.mpr head
      · split at read
        · cases read
        · cases read
        · obtain ⟨⟨kvs, c₄⟩, rest, done⟩ := exists_of_bind_eq_ok read
          cases done
          exact List.forall_mem_cons.mpr ⟨head, ih rest⟩
      · cases read

theorem of_mem_objectPart {c c' : Cursor} {kvs : List (String × Json)}
    (read : objectPart item c = .ok (kvs, c')) : ∀ e ∈ kvs, P e.2 := by
  rw [objectPart] at read
  split at read
  · cases read
  · cases read
    exact fun e mem => absurd mem List.not_mem_nil
  · exact of_mem_members h read

end

/-! ## Values -/

mutual

/-- The numbers in a value, in order. -/
def numbers : Json → List Number
  | .number n => [n]
  | .array items => itemNumbers items
  | .object entries => entryNumbers entries
  | _ => []

/-- The numbers in elements. -/
def itemNumbers : List Json → List Number
  | [] => []
  | v :: rest => v.numbers ++ itemNumbers rest

/-- The numbers in the values of entries. -/
def entryNumbers : List (String × Json) → List Number
  | [] => []
  | (_, v) :: rest => v.numbers ++ entryNumbers rest

end

theorem itemNumbers_eq (items : List Json) : itemNumbers items = items.flatMap numbers := by
  induction items with
  | nil => rfl
  | cons v items ih => rw [itemNumbers, ih, List.flatMap_cons]

theorem entryNumbers_eq (entries : List (String × Json)) :
    entryNumbers entries = entries.flatMap fun e => e.2.numbers := by
  induction entries with
  | nil => rfl
  | cons e entries ih => rw [entryNumbers, ih, List.flatMap_cons]

/-- Elements are bounded in depth together exactly if each of them is. -/
theorem depthItems_le_iff {items : List Json} {depth : Nat} :
    depthItems items ≤ depth ↔ ∀ v ∈ items, v.depth ≤ depth := by
  induction items with
  | nil => simp [depthItems]
  | cons v items ih => rw [depthItems, Nat.max_le, ih, List.forall_mem_cons]

theorem depthEntries_le_iff {entries : List (String × Json)} {depth : Nat} :
    depthEntries entries ≤ depth ↔ ∀ e ∈ entries, e.2.depth ≤ depth := by
  induction entries with
  | nil => simp [depthEntries]
  | cons e entries ih => rw [depthEntries, Nat.max_le, ih, List.forall_mem_cons]

/-- The value is not nested too deep, and its numbers satisfy a predicate. -/
def IsWithin (depth : Nat) (P : Number → Prop) (v : Json) : Prop :=
  v.depth ≤ depth ∧ ∀ n ∈ v.numbers, P n

section

variable {depth : Nat} {P : Number → Prop}

/-- An array lies one level above its elements. -/
theorem isWithin_array {items : List Json} (h : ∀ v ∈ items, v.IsWithin depth P) :
    (Json.array items).IsWithin (depth + 1) P := by
  refine ⟨Nat.succ_le_succ (depthItems_le_iff.mpr fun v mem => (h v mem).1), ?_⟩
  rw [numbers, itemNumbers_eq, List.forall_mem_flatMap]
  exact fun v mem => (h v mem).2

theorem isWithin_object {entries : List (String × Json)}
    (h : ∀ e ∈ entries, e.2.IsWithin depth P) : (Json.object entries).IsWithin (depth + 1) P := by
  refine ⟨Nat.succ_le_succ (depthEntries_le_iff.mpr fun e mem => (h e mem).1), ?_⟩
  rw [numbers, entryNumbers_eq, List.forall_mem_flatMap]
  exact fun e mem => (h e mem).2

theorem isWithin_number {n : Number} (h : P n) : (Json.number n).IsWithin depth P :=
  ⟨Nat.zero_le _, List.forall_mem_singleton.mpr h⟩

theorem isWithin_of_numbers_eq_nil {v : Json} (flat : v.depth = 0) (none : v.numbers = []) :
    v.IsWithin depth P := by
  refine ⟨by omega, ?_⟩
  rw [none]
  exact fun n mem => absurd mem List.not_mem_nil

end

/-- A container is read with a reader for what lies inside it.  If that reader stays within one
level less, the whole value is within its own, and scalars are within any. -/
theorem isWithin_valueOver {item : Option (Reader Json)} {depth : Nat}
    (parts : ∀ reader ∈ item, ∃ d, depth = d + 1 ∧
      ∀ {c v c'}, reader c = .ok (v, c') → v.IsWithin d Number.InRange)
    {c c' : Cursor} {v : Json} (h : valueOver item c = .ok (v, c')) :
    v.IsWithin depth Number.InRange := by
  rw [valueOver] at h
  dsimp only at h
  split at h
  · cases h
  · -- The first character tells the kind of the value: a word, a number below zero, a string, an
    -- array, an object, or a number that begins with a digit.
    split at h
    · obtain ⟨_, -, done⟩ := exists_of_bind_eq_ok h
      cases done
      exact isWithin_of_numbers_eq_nil rfl rfl
    · obtain ⟨_, -, done⟩ := exists_of_bind_eq_ok h
      cases done
      exact isWithin_of_numbers_eq_nil rfl rfl
    · obtain ⟨_, -, done⟩ := exists_of_bind_eq_ok h
      cases done
      exact isWithin_of_numbers_eq_nil rfl rfl
    · obtain ⟨⟨n, c''⟩, read, done⟩ := exists_of_bind_eq_ok h
      cases done
      exact isWithin_number (inRange_of_numberPart read)
    · obtain ⟨_, -, done⟩ := exists_of_bind_eq_ok h
      cases done
      exact isWithin_of_numbers_eq_nil rfl rfl
    · split at h
      · cases h
      · next reader =>
          obtain ⟨⟨vs, c''⟩, read, done⟩ := exists_of_bind_eq_ok h
          obtain ⟨d, rfl, sound⟩ := parts reader rfl
          cases done
          exact isWithin_array (of_mem_arrayPart sound read)
    · split at h
      · cases h
      · next reader =>
          obtain ⟨⟨kvs, c''⟩, read, done⟩ := exists_of_bind_eq_ok h
          obtain ⟨d, rfl, sound⟩ := parts reader rfl
          cases done
          exact isWithin_object (of_mem_objectPart sound read)
    · split at h
      · obtain ⟨⟨n, c''⟩, read, done⟩ := exists_of_bind_eq_ok h
        cases done
        exact isWithin_number (inRange_of_numberPart read)
      · cases h

/-- What is read with so many levels left is not nested deeper, and its numbers are in range. -/
theorem isWithin_value {depth : Nat} {c c' : Cursor} {v : Json}
    (h : value depth c = .ok (v, c')) : v.IsWithin depth Number.InRange := by
  induction depth generalizing c c' v with
  | zero => exact isWithin_valueOver (by simp) h
  | succ d ih =>
      refine isWithin_valueOver (fun reader same => ⟨d, rfl, fun {c v c'} h => ?_⟩) h
      cases same
      exact ih h

theorem isWithin_of_readRaw {text : List Char} {v : Json} (h : readRaw text = .ok v) :
    v.IsWithin greatestDepth Number.InRange := by
  rw [readRaw] at h
  obtain ⟨⟨w, c⟩, read, h⟩ := exists_of_bind_eq_ok h
  dsimp only at h
  split at h
  · cases h
    exact isWithin_value read
  · cases h

/-! ## Merging -/

/-- Merged entries are the merged values, put one after the other. -/
theorem mergedEntries_eq (before entries : List (String × Json)) :
    mergedEntries before entries =
      putEntries before (entries.map fun e => (e.1, e.2.merged)) := by
  induction entries generalizing before with
  | nil => rfl
  | cons e entries ih =>
      rw [mergedEntries, ih]
      rfl

/-- What holds of every merged value holds of all merged entries. -/
theorem of_mem_mergedEntries {P : Json → Prop} {entries : List (String × Json)}
    (h : ∀ e ∈ entries, P e.2.merged) : ∀ e ∈ mergedEntries [] entries, P e.2 := by
  intro e mem
  rw [mergedEntries_eq] at mem
  obtain ⟨origin, there, rfl⟩ := List.mem_map.mp (mem_of_mem_putEntries mem)
  exact h origin there

theorem mergedItems_eq (items : List Json) : mergedItems items = items.map merged := by
  induction items with
  | nil => rfl
  | cons v items ih => rw [mergedItems, ih, List.map_cons]

/-- Merging leaves distinct keys at every depth, so numbers in range are all that is needed. -/
theorem wellFormed_merged {v : Json} (h : ∀ n ∈ v.numbers, n.InRange) : v.merged.WellFormed := by
  induction v using partsInduction with
  | scalar v scalar =>
      cases v with
      | null | bool | string => trivial
      | number n => exact h n (List.mem_singleton.mpr rfl)
      | array | object => cases scalar
  | array items ih =>
      rw [numbers, itemNumbers_eq, List.forall_mem_flatMap] at h
      rw [merged, WellFormed, mergedItems_eq, wellFormedItems_iff, List.forall_mem_map]
      exact fun w mem => ih w mem (h w mem)
  | object entries ih =>
      rw [numbers, entryNumbers_eq, List.forall_mem_flatMap] at h
      have distinct : ((mergedEntries [] entries).map Prod.fst).Nodup := by
        rw [mergedEntries_eq]
        exact nodup_putEntries _
      refine ⟨distinct, wellFormedEntries_iff.mpr ?_⟩
      exact of_mem_mergedEntries fun e mem => ih e mem (h e mem)

/-- Merging only drops values. -/
theorem depth_merged_le (v : Json) : v.merged.depth ≤ v.depth := by
  induction v using partsInduction with
  | scalar v scalar =>
      cases v with
      | null | bool | number | string => exact Nat.le_refl _
      | array | object => cases scalar
  | array items ih =>
      refine Nat.succ_le_succ (depthItems_le_iff.mpr ?_)
      rw [mergedItems_eq, List.forall_mem_map]
      exact fun w mem => Nat.le_trans (ih w mem) (depth_le_depthItems mem)
  | object entries ih =>
      refine Nat.succ_le_succ (depthEntries_le_iff.mpr ?_)
      exact of_mem_mergedEntries (P := fun w => w.depth ≤ depthEntries entries)
        fun e mem => Nat.le_trans (ih e mem) (depth_le_depthEntries mem)

/-- A well-formed value has nothing to merge. -/
theorem merged_of_wellFormed {v : Json} (wf : v.WellFormed) : v.merged = v := by
  induction v using partsInduction with
  | scalar v scalar =>
      cases v with
      | null | bool | number | string => rfl
      | array | object => cases scalar
  | array items ih =>
      rw [WellFormed, wellFormedItems_iff] at wf
      rw [merged, mergedItems_eq, List.map_congr_left fun w mem => ih w mem (wf w mem),
        List.map_id']
  | object entries ih =>
      rw [WellFormed, wellFormedEntries_iff] at wf
      have same : entries.map (fun e => (e.1, e.2.merged)) = entries := by
        refine (List.map_congr_left fun e mem => ?_).trans (List.map_id entries)
        rw [ih e mem (wf.2 e mem)]
        rfl
      rw [merged, mergedEntries_eq, same, putEntries_of_nodup wf.1]

/-! ## Documents -/

/-- The value can be read from a text. -/
structure IsDocument (v : Json) : Prop where
  wellFormed : v.WellFormed
  depth_le : v.depth ≤ greatestDepth

/-- Whatever is read from a text is a document. -/
theorem isDocument_of_read {text : List Char} {v : Json} (h : read text = .ok v) :
    v.IsDocument := by
  rw [read] at h
  cases outcome : readRaw text with
  | error f =>
      rw [outcome] at h
      cases h
  | ok w =>
      obtain ⟨depth, inRange⟩ := isWithin_of_readRaw outcome
      rw [outcome] at h
      cases h
      exact ⟨wellFormed_merged inRange, Nat.le_trans (depth_merged_le w) depth⟩

/-- Parsing only words the faults of reading. -/
theorem toOption_parse (text : String) : (parse text).toOption = (read text.toList).toOption := by
  rw [parse]
  cases read text.toList <;> rfl

theorem isDocument_of_parse {text : String} {v : Json} (h : parse text = .ok v) :
    v.IsDocument := by
  have found := toOption_parse text
  rw [h] at found
  cases outcome : read text.toList with
  | error f =>
      rw [outcome] at found
      cases found
  | ok w =>
      rw [outcome] at found
      cases found
      exact isDocument_of_read outcome

/-- The parts of a document are documents. -/
theorem IsDocument.child {v w : Json} {part : Path.Part} (doc : v.IsDocument)
    (h : (part, w) ∈ v.children) : w.IsDocument := by
  refine ⟨wellFormed_of_mem_children doc.wellFormed h, Nat.le_trans ?_ doc.depth_le⟩
  rcases mem_children_iff.mp h with ⟨items, i, rfl, rfl, hw⟩ | ⟨entries, name, rfl, rfl, hw⟩
  · exact Nat.le_succ_of_le (depth_le_depthItems (List.mem_of_getElem? hw))
  · exact Nat.le_succ_of_le (depth_le_depthEntries hw)

end Json

end BodyCheck
