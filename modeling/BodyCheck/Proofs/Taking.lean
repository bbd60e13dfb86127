import BodyCheck.Filter.Value
import BodyCheck.Json.Reader
import BodyCheck.Proofs.Traversal

/-!
# What readers take off a text

A reader counts bytes and says what is wrong, but what it makes of a text depends on the text alone.
`taken` is what a reader takes off and what it leaves, and `Reads` says this of a text that stands
in front of anything that can follow a value.

Inside a string a text can stand for a character (`StandsFor`).  A way to write characters that
stand for themselves writes strings that are read back (`Json.taken_stringPart`).
-/

namespace BodyCheck

/-! ## Taking -/

section

variable {ε α β : Type}

/-- What is taken off a text, and what is left of it. -/
def taken : Except ε (α × Cursor) → Option (α × List Char)
  | .ok (a, c) => some (a, c.rest)
  | .error _ => none

@[simp] theorem taken_ok (a : α) (c : Cursor) :
    taken (.ok (a, c) : Except ε (α × Cursor)) = some (a, c.rest) := rfl

@[simp] theorem taken_error (e : ε) : taken (.error e : Except ε (α × Cursor)) = none := rfl

/-- What is done with the outcome of a reader may depend on the place where it stands, as long as
what is taken does not. -/
theorem taken_bind {x : Except ε (α × Cursor)} {f : α × Cursor → Except ε (β × Cursor)}
    {g : α → List Char → Option (β × List Char)}
    (h : ∀ a rest offset, taken (f (a, ⟨rest, offset⟩)) = g a rest) :
    taken (x >>= f) = (taken x).bind fun y => g y.1 y.2 := by
  cases x with
  | error e => rfl
  | ok y => exact h y.1 y.2.rest y.2.offset

theorem taken_map (f : α → β) (x : Except ε (α × Cursor)) :
    taken (do let (a, c) ← x; return (f a, c)) = (taken x).map fun y => (f y.1, y.2) := by
  cases x <;> rfl

/-- What turns the result of a reader into its own takes off the same. -/
theorem taken_eq_map (f : α → β) {x : Except ε (α × Cursor)} {y : Except ε (β × Cursor)}
    (h : y = do let (a, c) ← x; return (f a, c)) :
    taken y = (taken x).map fun z => (f z.1, z.2) := by
  rw [h, taken_map]

/-- What can follow a value: nothing, a comma, or the end of a container. -/
def EndsValue : List Char → Prop
  | [] => True
  | ch :: _ => ch = ',' ∨ ch = ']' ∨ ch = '\x7d'

/-- In front of everything that can follow a value, the reader takes off the text and gives the
result.  Without a result it fails. -/
def Reads (reader : Cursor → Except ε (α × Cursor)) (text : List Char) (result : Option α) : Prop :=
  ∀ rest offset, EndsValue rest →
    taken (reader ⟨text ++ rest, offset⟩) = result.map fun a => (a, rest)

end

theorem Cursor.skipBlanks_cons {ch : Char} (h : isBlank ch = false) (rest : List Char)
    (offset : Nat) : skipBlanks ⟨ch :: rest, offset⟩ = ⟨ch :: rest, offset⟩ := by
  rw [skipBlanks, skipBlanksFrom, h]
  rfl

/-! ## Strings -/

/-- Inside a string the text stands for the character. -/
def StandsFor (text : List Char) (ch : Char) : Prop :=
  ∀ n rest offset, ∃ offset', Json.stringRest (n + 1) ⟨text ++ rest, offset⟩ = do
    let (tail, c) ← Json.stringRest n ⟨rest, offset'⟩
    return (ch :: tail, c)

namespace Json

/-- A character that needs no escape stands for itself. -/
theorem standsFor_self {ch : Char} (quote : ch ≠ '"') (backslash : ch ≠ '\\') (shown : ¬ ch < ' ') :
    StandsFor [ch] ch := by
  intro n rest offset
  refine ⟨offset + ch.utf8Size, ?_⟩
  rw [List.singleton_append, stringRest]
  simp only [if_neg quote, if_neg backslash, if_neg shown]

/-- A letter behind a backslash stands for the character of the escape. -/
theorem standsFor_letter {letter ch : Char} (h : letterEscape? letter = some ch) :
    StandsFor ['\\', letter] ch := by
  intro n rest offset
  have read : escape ⟨letter :: rest, offset + 1⟩ = .ok (ch, ⟨rest, offset + 1 + 1⟩) := by
    rw [escape]
    simp only [h]
  refine ⟨offset + 1 + 1, ?_⟩
  rw [List.cons_append, List.singleton_append, stringRest]
  simp only [if_neg (show '\\' ≠ '"' by decide), if_pos, read]
  rfl

/-- The number of a character of ASCII, in four hexadecimal digits. -/
theorem fourHex?_of_lt {n : Nat} (h : n < 128) (rest : List Char) :
    fourHex? ('0' :: '0' :: hexDigit (n / 16) :: hexDigit (n % 16) :: rest) = some (n, rest) := by
  have digits : ∀ d < 16, hexValue? (hexDigit d) = some d := by decide
  have zero : hexValue? '0' = some 0 := rfl
  have value : ((0 * 16 + 0) * 16 + n / 16) * 16 + n % 16 = n := by omega
  rw [fourHex?, zero, digits (n / 16) (by omega), digits (n % 16) (by omega)]
  exact congrArg (fun m => some (m, rest)) value

/-- A character of ASCII may be written by its number. -/
theorem standsFor_number {ch : Char} (h : ch.toNat < 128) :
    StandsFor ['\\', 'u', '0', '0', hexDigit (ch.toNat / 16), hexDigit (ch.toNat % 16)] ch := by
  intro n rest offset
  have low : isLowSurrogate ch.toNat = false := by
    simp only [isLowSurrogate, Bool.and_eq_false_iff, decide_eq_false_iff_not]
    omega
  have high : isHighSurrogate ch.toNat = false := by
    simp only [isHighSurrogate, Bool.and_eq_false_iff, decide_eq_false_iff_not]
    omega
  have number : ∀ o, unicodeEscape ⟨'0' :: '0' :: hexDigit (ch.toNat / 16) ::
      hexDigit (ch.toNat % 16) :: rest, o⟩ = .ok (ch, ⟨rest, o + 4⟩) := by
    intro o
    rw [unicodeEscape, hexEscape]
    simp only [fourHex?_of_lt h]
    show (if isLowSurrogate ch.toNat then _ else if isHighSurrogate ch.toNat then _ else _) = _
    rw [low, high, Char.ofNat_toNat]
    rfl
  refine ⟨offset + 1 + 1 + 4, ?_⟩
  have read : escape ⟨'u' :: '0' :: '0' :: hexDigit (ch.toNat / 16) ::
      hexDigit (ch.toNat % 16) :: rest, offset + 1⟩ = .ok (ch, ⟨rest, offset + 1 + 1 + 4⟩) :=
    number (offset + 1 + 1)
  show stringRest (n + 1) ⟨'\\' :: 'u' :: '0' :: '0' :: hexDigit (ch.toNat / 16) ::
      hexDigit (ch.toNat % 16) :: rest, offset⟩ = _
  rw [stringRest]
  simp only [if_neg (show '\\' ≠ '"' by decide), if_pos, read]
  rfl

end Json

/-- A way to write the characters of strings, each as a text that stands for it. -/
structure IsEscape (escape : Char → List Char) : Prop where
  standsFor : ∀ ch, StandsFor (escape ch) ch
  ne_nil : ∀ ch, escape ch ≠ []

theorem Json.isEscape_escapeChar : IsEscape Json.escapeChar where
  standsFor ch := by
    unfold escapeChar
    split
    · exact standsFor_letter rfl
    · exact standsFor_letter rfl
    · exact standsFor_letter rfl
    · exact standsFor_letter rfl
    · exact standsFor_letter rfl
    · exact standsFor_letter rfl
    · exact standsFor_letter rfl
    · next quote backslash _ _ _ _ _ =>
        split
        · next control => exact standsFor_number (Nat.lt_trans control (by decide))
        · next shown => exact standsFor_self quote backslash shown
  ne_nil ch := by
    unfold escapeChar
    split <;> simp
    split <;> simp

theorem Filter.isEscape_escapeChar : IsEscape Filter.escapeChar where
  standsFor ch := by
    unfold escapeChar
    split
    · exact Json.standsFor_letter rfl
    · exact Json.standsFor_letter rfl
    · exact Json.standsFor_letter rfl
    · exact Json.standsFor_letter rfl
    · exact Json.standsFor_letter rfl
    · next quote backslash _ _ _ =>
        split
        · next control =>
            refine Json.standsFor_number ?_
            rcases control with control | rfl
            · exact Nat.lt_trans control (by decide)
            · decide
        · next shown =>
            exact Json.standsFor_self quote backslash fun control => shown (.inl control)
  ne_nil ch := by
    unfold escapeChar
    split <;> simp
    split <;> simp

namespace Json

variable {escape : Char → List Char} (h : IsEscape escape)

include h

/-- A string that was written is read back, whatever follows its closing quote. -/
theorem taken_stringRest (s rest : List Char) (offset : Nat) {n : Nat} (bound : s.length < n) :
    taken (stringRest n ⟨s.flatMap escape ++ '"' :: rest, offset⟩) = some (s, rest) := by
  induction s generalizing n offset with
  | nil =>
      obtain ⟨m, rfl⟩ : ∃ m, n = m + 1 := ⟨n - 1, by rw [List.length_nil] at bound; omega⟩
      rw [List.flatMap_nil, List.nil_append, stringRest]
      rfl
  | cons ch s ih =>
      obtain ⟨m, rfl⟩ : ∃ m, n = m + 1 := ⟨n - 1, by omega⟩
      obtain ⟨offset', step⟩ := h.standsFor ch m (s.flatMap escape ++ '"' :: rest) offset
      rw [List.flatMap_cons, List.append_assoc, step,
        taken_bind (g := fun tail left => some (ch :: tail, left))]
      · rw [ih offset' (by rw [List.length_cons] at bound; omega)]
        rfl
      · intro tail left o
        rfl

theorem length_le_length_flatMap (s : List Char) : s.length ≤ (s.flatMap escape).length := by
  induction s with
  | nil => exact Nat.le_refl _
  | cons ch s ih =>
      have written := List.length_pos_iff.mpr (h.ne_nil ch)
      rw [List.flatMap_cons, List.length_append, List.length_cons]
      omega

theorem taken_stringPart (s : String) (rest : List Char) (offset : Nat) :
    taken (stringPart ⟨s.toList.flatMap escape ++ '"' :: rest, offset⟩) = some (s, rest) := by
  rw [stringPart, taken_bind (g := fun chars left => some (String.ofList chars, left))]
  · rw [taken_stringRest h]
    · simp
    · have := length_le_length_flatMap h s.toList
      simp only [List.length_append, List.length_cons]
      omega
  · intro chars left o
    rfl

end Json

/-! ## Documents -/

namespace Json

theorem exists_value_eq (depth : Nat) : ∃ item, value depth = valueOver item := by
  cases depth with
  | zero => exact ⟨none, rfl⟩
  | succ depth => exact ⟨some (value depth), rfl⟩

/-- A text from which a value is taken whole is the text of a document. -/
theorem toOption_read {text : List Char} {result : Option Json}
    (h : Reads (value greatestDepth) text result) : (read text).toOption = result.map merged := by
  have whole := h [] 0 trivial
  rw [List.append_nil] at whole
  rw [read, readRaw]
  change taken (value greatestDepth (.start text)) = _ at whole
  cases outcome : value greatestDepth (.start text) with
  | error f =>
      rw [outcome] at whole
      cases result with
      | none => rfl
      | some v => cases whole
  | ok y =>
      obtain ⟨v, c⟩ := y
      rw [outcome] at whole
      cases result with
      | none => cases whole
      | some w =>
          obtain ⟨rfl, left⟩ : v = w ∧ c.rest = [] := by simpa using whole
          have stop : c.skipBlanks.rest = [] := by rw [Cursor.skipBlanks, left]; rfl
          show (Except.map merged (match c.skipBlanks.rest with
            | [] => .ok v
            | _ :: _ => c.skipBlanks.beyond .trailingText)).toOption = _
          rw [stop]
          rfl

end Json

end BodyCheck
