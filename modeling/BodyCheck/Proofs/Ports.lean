import BodyCheck.Proofs.Numerals
import BodyCheck.Proofs.Traversal
import BodyCheck.Proofs.WrittenPairs

/-!
# Ports and their texts

A port is a dollar sign and a name, or a numeral that fits into 16 bits (`IsPort`).  The numeral is
one or more digits behind a plus or behind nothing (`Spells`), and it may have any number of leading
zeros.

Its digits are read one after the other, and each time the value so far is held against the bound.
A value never gets smaller by another digit (`le_digitsValueFrom`).  So a numeral of any length is
accepted exactly if its value is within the bound (`bounded_eq_ok_iff`), and digits beyond the bound
are refused as such whatever follows them (`bounded_eq_beyond_iff`).

The numerals of a number are its decimal form with zeros and a plus in front, and no others
(`spells_iff_exists_zeros`).  None of them starts with a dollar sign, so no text is both a reference
and a numeral.
-/

namespace BodyCheck

/-! ## Digits within a bound -/

theorem digitsValue_le_append (front back : List Char) :
    digitsValue front ≤ digitsValue (front ++ back) := by
  rw [digitsValue, digitsValue, digitsValueFrom_append]
  exact le_digitsValueFrom _ back

section

variable {greatest : Nat} {beyond : NumeralError} {value n : Nat} {digits : List Char}

theorem boundedFrom_cons {ch : Char} (digit : ch.isDigit) (rest : List Char) :
    boundedFrom greatest beyond value (ch :: rest) =
      if value * 10 + digitValue ch ≤ greatest then
        boundedFrom greatest beyond (value * 10 + digitValue ch) rest
      else .error beyond := by
  rw [boundedFrom, digit]
  rfl

theorem boundedFrom_cons_of_not_isDigit {ch : Char} (other : ¬ ch.isDigit) (rest : List Char) :
    boundedFrom greatest beyond value (ch :: rest) = .error .invalidDigit := by
  rw [Bool.not_eq_true] at other
  rw [boundedFrom, other]
  rfl

/-- Digits are read if all of them are digits and their value keeps to the bound. -/
theorem boundedFrom_eq_ok_iff (within : value ≤ greatest) :
    boundedFrom greatest beyond value digits = .ok n ↔
      (∀ ch ∈ digits, ch.isDigit) ∧ digitsValueFrom value digits = n ∧ n ≤ greatest := by
  induction digits generalizing value with
  | nil =>
      rw [boundedFrom, digitsValueFrom_nil, Except.ok.injEq]
      constructor
      · rintro rfl
        exact ⟨fun _ mem => absurd mem List.not_mem_nil, rfl, within⟩
      · exact fun h => h.2.1
  | cons ch rest ih =>
      rw [List.forall_mem_cons, digitsValueFrom_cons]
      by_cases digit : ch.isDigit
      · rw [boundedFrom_cons digit, and_iff_right digit]
        split
        · next small => exact ih small
        · next large =>
            -- the digits that follow do not bring the value back below the bound
            have least := le_digitsValueFrom (value * 10 + digitValue ch) rest
            refine iff_of_false nofun ?_
            rintro ⟨-, rfl, small⟩
            omega
      · rw [boundedFrom_cons_of_not_isDigit digit]
        exact iff_of_false nofun fun h => digit h.1.1

/-- The digits up to the first other character decide whether the bound is exceeded. -/
theorem boundedFrom_eq_beyond_iff (other : beyond ≠ .invalidDigit) (within : value ≤ greatest) :
    boundedFrom greatest beyond value digits = .error beyond ↔
      greatest < digitsValueFrom value (digits.takeWhile Char.isDigit) := by
  induction digits generalizing value with
  | nil =>
      rw [List.takeWhile_nil, digitsValueFrom_nil]
      exact iff_of_false nofun (Nat.not_lt.mpr within)
  | cons ch rest ih =>
      by_cases digit : ch.isDigit
      · rw [boundedFrom_cons digit, List.takeWhile_cons_of_pos digit, digitsValueFrom_cons]
        split
        · next small => exact ih small
        · next large =>
            exact iff_of_true rfl (Nat.lt_of_lt_of_le (Nat.not_le.mp large) (le_digitsValueFrom ..))
      · rw [boundedFrom_cons_of_not_isDigit digit, List.takeWhile_cons_of_neg digit,
          digitsValueFrom_nil]
        exact iff_of_false (fun same => other (Except.error.inj same).symm) (Nat.not_lt.mpr within)

/-- A number within the bound is read off its digits, of which there is at least one. -/
theorem bounded_eq_ok_iff :
    bounded greatest beyond digits = .ok n ↔
      isDigits digits ∧ digitsValue digits = n ∧ n ≤ greatest := by
  cases digits with
  | nil => exact iff_of_false nofun fun h => Bool.false_ne_true h.1
  | cons ch rest =>
      rw [bounded, boundedFrom_eq_ok_iff (Nat.zero_le greatest), isDigits_iff,
        and_iff_right (List.cons_ne_nil ch rest), digitsValue]
      exact List.cons_ne_nil ch rest

/-- Digits beyond the bound are refused as such, whatever follows them. -/
theorem bounded_eq_beyond_iff (other : beyond ≠ .invalidDigit) :
    bounded greatest beyond digits = .error beyond ↔
      ∃ front, front <+: digits ∧ isDigits front ∧ greatest < digitsValue front := by
  have taken : bounded greatest beyond digits = .error beyond ↔
      greatest < digitsValue (digits.takeWhile Char.isDigit) := by
    cases digits with
    | nil =>
        refine iff_of_false (fun same => other (Except.error.inj same).symm) ?_
        rw [List.takeWhile_nil, digitsValue, digitsValueFrom_nil]
        exact Nat.not_lt_zero greatest
    | cons ch rest =>
        rw [bounded, boundedFrom_eq_beyond_iff other (Nat.zero_le greatest), digitsValue]
        exact List.cons_ne_nil ch rest
  rw [taken]
  constructor
  · intro large
    refine ⟨_, List.takeWhile_prefix _, isDigits_iff.mpr ⟨fun empty => ?_, ?_⟩, large⟩
    · rw [empty, digitsValue, digitsValueFrom_nil] at large
      exact Nat.not_lt_zero greatest large
    · exact List.all_eq_true.mp List.all_takeWhile
  · rintro ⟨front, ⟨back, rfl⟩, all, large⟩
    rw [List.takeWhile_append_of_pos (isDigits_iff.mp all).2]
    exact Nat.lt_of_lt_of_le large (digitsValue_le_append front _)

end

/-! ## Leading zeros -/

theorem digitValue_lt {ch : Char} (digit : ch.isDigit) : digitValue ch < 10 := by
  obtain ⟨least, greatest⟩ := Char.isDigit_iff_toNat.mp digit
  rw [digitValue]
  have nine : '9'.toNat = '0'.toNat + 9 := rfl
  omega

/-- A digit is known from its value. -/
theorem digitChar_digitValue {ch : Char} (digit : ch.isDigit) : (digitValue ch).digitChar = ch := by
  rw [← Char.toNat_inj, Nat.toNat_digitChar_of_lt_ten (digitValue_lt digit), digitValue]
  exact Nat.add_sub_cancel' (Char.isDigit_iff_toNat.mp digit).1

theorem decimalDigits_digitValue {ch : Char} (digit : ch.isDigit) :
    decimalDigits (digitValue ch) = [ch] := by
  rw [decimalDigits, Nat.toDigits_of_lt_base (digitValue_lt digit), digitChar_digitValue digit]

/-- The decimal form of a number goes on with the digits that are put behind it, unless it is zero. -/
theorem decimalDigits_append {value : Nat} (positive : 0 < value) {digits : List Char}
    (all : ∀ ch ∈ digits, ch.isDigit) :
    decimalDigits value ++ digits = decimalDigits (digitsValueFrom value digits) := by
  induction digits generalizing value with
  | nil => rw [List.append_nil, digitsValueFrom_nil]
  | cons ch rest ih =>
      obtain ⟨digit, all⟩ := List.forall_mem_cons.mp all
      have next : decimalDigits value ++ [ch] = decimalDigits (value * 10 + digitValue ch) := by
        rw [← decimalDigits_digitValue digit, Nat.mul_comm]
        exact Nat.toDigits_append_toDigits (by decide) positive (digitValue_lt digit)
      rw [digitsValueFrom_cons, ← ih (by omega) all, ← next, List.append_assoc, List.singleton_append]

/-- Digits are the decimal form of their value behind zeros. -/
theorem exists_eq_zeros_append {digits : List Char} (h : isDigits digits) :
    ∃ zeros, digits = List.replicate zeros '0' ++ decimalDigits (digitsValue digits) := by
  induction digits with
  | nil => cases h
  | cons ch rest ih =>
      obtain ⟨digit, all⟩ := List.forall_mem_cons.mp (isDigits_iff.mp h).2
      by_cases zero : ch = '0'
      · subst zero
        have value : digitsValue ('0' :: rest) = digitsValue rest := digitsValueFrom_cons 0 '0' rest
        cases rest with
        | nil => exact ⟨0, rfl⟩
        | cons first rest =>
            obtain ⟨zeros, same⟩ := ih (isDigits_iff.mpr ⟨List.cons_ne_nil first rest, all⟩)
            exact ⟨zeros + 1, by rw [value, List.replicate_succ, List.cons_append, ← same]⟩
      · have positive : 0 < digitValue ch := by
          refine Nat.pos_of_ne_zero fun none => zero ?_
          rw [← digitChar_digitValue digit, none]
          rfl
        refine ⟨0, ?_⟩
        rw [digitsValue, digitsValueFrom_cons, Nat.zero_mul, Nat.zero_add,
          ← decimalDigits_append positive all, decimalDigits_digitValue digit]
        rfl

/-- Leading zeros do not change the value. -/
theorem digitsValue_zeros_append (zeros n : Nat) :
    digitsValue (List.replicate zeros '0' ++ decimalDigits n) = n := by
  rw [digitsValue, digitsValueFrom_append, digitsValueFrom_eq 0, Nat.ofDigitChars_replicate_zero,
    Nat.mul_zero]
  exact digitsValue_decimalDigits n

theorem isDigits_zeros_append (zeros n : Nat) :
    isDigits (List.replicate zeros '0' ++ decimalDigits n) :=
  isDigits_append (fun _ mem => (List.eq_of_mem_replicate mem) ▸ rfl) (isDigits_decimalDigits n)

/-! ## Numerals with a sign -/

/-- The text is one or more digits of the given value, behind a plus or behind nothing. -/
inductive Spells : List Char → Nat → Prop where
  | digits {digits : List Char} : isDigits digits → Spells digits (digitsValue digits)
  | plus {digits : List Char} : isDigits digits → Spells ('+' :: digits) (digitsValue digits)

/-- The numerals of a number are its decimal form, with zeros and a plus in front or without. -/
theorem spells_iff_exists_zeros {text : List Char} {n : Nat} :
    Spells text n ↔ ∃ zeros, text = List.replicate zeros '0' ++ decimalDigits n ∨
      text = '+' :: (List.replicate zeros '0' ++ decimalDigits n) := by
  constructor
  · rintro (h | h)
    · obtain ⟨zeros, same⟩ := exists_eq_zeros_append h
      exact ⟨zeros, .inl same⟩
    · obtain ⟨zeros, same⟩ := exists_eq_zeros_append h
      exact ⟨zeros, .inr (congrArg _ same)⟩
  · rintro ⟨zeros, rfl | rfl⟩
    · have spelled := Spells.digits (isDigits_zeros_append zeros n)
      rwa [digitsValue_zeros_append] at spelled
    · have spelled := Spells.plus (isDigits_zeros_append zeros n)
      rwa [digitsValue_zeros_append] at spelled

theorem spells_plus_iff {digits : List Char} {n : Nat} :
    Spells ('+' :: digits) n ↔ isDigits digits ∧ digitsValue digits = n := by
  constructor
  · rintro (h | h)
    · cases (isDigits_iff.mp h).2 '+' (List.mem_cons_self ..)
    · exact ⟨h, rfl⟩
  · rintro ⟨h, rfl⟩
    exact .plus h

/-- Without a plus in front a numeral is all digits. -/
theorem spells_iff_of_ne_plus {text : List Char} {n : Nat} (other : ∀ rest, text ≠ '+' :: rest) :
    Spells text n ↔ isDigits text ∧ digitsValue text = n := by
  constructor
  · rintro (h | h)
    · exact ⟨h, rfl⟩
    · exact absurd rfl (other _)
  · rintro ⟨h, rfl⟩
    exact .digits h

/-- A numeral starts with a plus or a digit. -/
theorem Spells.exists_cons {text : List Char} {n : Nat} (h : Spells text n) :
    ∃ ch rest, text = ch :: rest ∧ (ch = '+' ∨ ch.isDigit) := by
  cases h with
  | digits h =>
      obtain ⟨some_digit, all⟩ := isDigits_iff.mp h
      obtain ⟨ch, rest, rfl⟩ := List.exists_cons_of_ne_nil some_digit
      exact ⟨ch, rest, rfl, .inr (all ch (List.mem_cons_self ..))⟩
  | plus _ => exact ⟨_, _, rfl, .inl rfl⟩

theorem Spells.not_prefix_dollar {text : List Char} {n : Nat} (h : Spells text n)
    (rest : List Char) : ¬ text <+: '$' :: rest := by
  obtain ⟨ch, tail, rfl, start⟩ := h.exists_cons
  intro isFront
  obtain ⟨rfl, -⟩ := List.cons_prefix_cons.mp isFront
  rcases start with plus | digit
  · exact absurd plus (by decide)
  · exact absurd digit (by decide)

/-- A numeral that fits into 16 bits is read, and nothing else is. -/
theorem readWord16_eq_ok_iff {text : List Char} {n : Nat} :
    readWord16 text = .ok n ↔ Spells text n ∧ n ≤ 65535 := by
  unfold readWord16
  split
  · refine iff_of_false nofun fun h => ?_
    obtain ⟨_, _, ⟨⟩, _⟩ := h.1.exists_cons
  · next digits => rw [bounded_eq_ok_iff, spells_plus_iff, and_assoc]
  · next other => rw [bounded_eq_ok_iff, spells_iff_of_ne_plus other, and_assoc]

/-- A text is refused as too large as soon as some numeral at its start is, whatever follows. -/
theorem readWord16_eq_tooLarge_iff {text : List Char} :
    readWord16 text = .error .tooLarge ↔
      ∃ front n, front <+: text ∧ Spells front n ∧ 65535 < n := by
  unfold readWord16
  split
  · refine iff_of_false nofun ?_
    rintro ⟨front, n, isFront, spelled, -⟩
    obtain ⟨_, _, rfl, _⟩ := spelled.exists_cons
    cases List.prefix_nil.mp isFront
  · next digits =>
      rw [bounded_eq_beyond_iff (by decide)]
      constructor
      · rintro ⟨front, isFront, all, large⟩
        exact ⟨_, _, List.cons_prefix_cons.mpr ⟨rfl, isFront⟩, .plus all, large⟩
      · rintro ⟨front, n, isFront, spelled, large⟩
        obtain ⟨ch, rest, rfl, _⟩ := spelled.exists_cons
        obtain ⟨rfl, isRest⟩ := List.cons_prefix_cons.mp isFront
        obtain ⟨all, rfl⟩ := spells_plus_iff.mp spelled
        exact ⟨rest, isRest, all, large⟩
  · next other =>
      rw [bounded_eq_beyond_iff (by decide)]
      constructor
      · rintro ⟨front, isFront, all, large⟩
        exact ⟨front, _, isFront, .digits all, large⟩
      · rintro ⟨front, n, isFront, spelled, large⟩
        cases spelled with
        | digits all => exact ⟨front, isFront, all, large⟩
        | plus all =>
            obtain ⟨back, rfl⟩ := isFront
            exact absurd rfl (other _)

/-! ## Ports -/

/-- The text stands for the port. -/
inductive IsPort : String → Arg UInt16 → Prop where
  /-- A reference is a dollar sign and a name. -/
  | reference {name : String} : name ≠ "" → IsPort ("$" ++ name) (.reference name)
  /-- A literal is a numeral for a number of 16 bits. -/
  | literal {text : String} {port : UInt16} :
      Spells text.toList port.toNat → IsPort text (.literal port)

theorem isPort_literal_iff {text : String} {port : UInt16} :
    IsPort text (.literal port) ↔ Spells text.toList port.toNat :=
  ⟨fun | .literal spelled => spelled, .literal⟩

/-- A text is a reference, or no dollar sign with a name behind it. -/
theorem exists_name_or_plain (text : String) :
    (∃ name, name ≠ "" ∧ "$" ++ name = text) ∨ ∀ c rest, text.toList ≠ '$' :: c :: rest := by
  obtain ⟨readable, written⟩ := Arg.ofText_eq_iff.mp (rfl : Arg.ofText text = _)
  generalize Arg.ofText text = a at readable written
  cases readable with
  | literal plain => exact .inr (written ▸ plain)
  | reference named => exact .inl ⟨_, named, written⟩

theorem portOfText_reference {name : String} (named : name ≠ "") :
    portOfText ("$" ++ name) = .ok (.reference name) := by
  have read : Arg.ofText ("$" ++ name) = .reference name :=
    Arg.ofText_eq_iff.mpr ⟨.reference named, rfl⟩
  rw [portOfText, read]

/-- What is no reference is read as a number of 16 bits. -/
theorem portOfText_numeral {text : String} (plain : ∀ c rest, text.toList ≠ '$' :: c :: rest) :
    portOfText text = (readWord16 text.toList).map fun n => .literal (UInt16.ofNat n) := by
  have read : Arg.ofText text = .literal text := Arg.ofText_eq_iff.mpr ⟨.literal plain, rfl⟩
  rw [portOfText, read]

/-- Exactly the texts of ports are read, as the ports they stand for. -/
theorem portOfText_eq_ok_iff {text : String} {port : Arg UInt16} :
    portOfText text = .ok port ↔ IsPort text port := by
  constructor
  · intro read
    rcases exists_name_or_plain text with ⟨name, named, rfl⟩ | plain
    · rw [portOfText_reference named] at read
      cases read
      exact .reference named
    · rw [portOfText_numeral plain] at read
      obtain ⟨n, numeral, rfl⟩ := exists_of_map_eq_ok read
      obtain ⟨spelled, fits⟩ := readWord16_eq_ok_iff.mp numeral
      refine .literal ?_
      rwa [UInt16.toNat_ofNat_of_lt' (Nat.lt_succ_of_le fits)]
  · rintro (named | spelled)
    · exact portOfText_reference named
    · next port =>
      have plain (c rest) : text.toList ≠ '$' :: c :: rest :=
        fun same => spelled.not_prefix_dollar (c :: rest) (same ▸ List.prefix_rfl)
      have numeral := readWord16_eq_ok_iff.mpr ⟨spelled, Nat.le_of_lt_succ port.toNat_lt⟩
      rw [portOfText_numeral plain, numeral, Except.map, UInt16.ofNat_toNat]

theorem portOfText_eq_tooLarge_iff {text : String} :
    portOfText text = .error .tooLarge ↔
      ∃ front n, front <+: text.toList ∧ Spells front n ∧ 65535 < n := by
  rcases exists_name_or_plain text with ⟨name, named, rfl⟩ | plain
  · rw [portOfText_reference named, String.toList_append]
    refine iff_of_false nofun ?_
    rintro ⟨front, n, isFront, spelled, -⟩
    exact spelled.not_prefix_dollar _ isFront
  · rw [portOfText_numeral plain, ← readWord16_eq_tooLarge_iff]
    cases readWord16 text.toList <;> simp [Except.map]

/-- A text stands for a reference exactly if it is a dollar sign and a name, and for a number exactly
if it is a numeral of that number.  There is nothing else that is accepted, and a text is refused as
too large exactly if a numeral at its start is.  A number is read from its decimal form, also behind
zeros and a plus, and from no other text. -/
theorem portOfText_eq_ok_iff_isPort (text : String) :
    (∀ port, portOfText text = .ok port ↔ IsPort text port) ∧
    ((∃ e, portOfText text = .error e) ↔ ¬ ∃ port, IsPort text port) ∧
    (portOfText text = .error .tooLarge ↔
      ∃ front n, front <+: text.toList ∧ Spells front n ∧ 65535 < n) ∧
    ∀ port : UInt16, portOfText (decimalText port.toNat) = .ok (.literal port) ∧
      (portOfText text = .ok (.literal port) ↔
        ∃ zeros, text.toList = List.replicate zeros '0' ++ decimalDigits port.toNat ∨
          text.toList = '+' :: (List.replicate zeros '0' ++ decimalDigits port.toNat)) := by
  refine ⟨fun port => portOfText_eq_ok_iff, ?_, portOfText_eq_tooLarge_iff, fun port => ⟨?_, ?_⟩⟩
  · simp only [← portOfText_eq_ok_iff]
    cases portOfText text <;> simp
  · rw [portOfText_eq_ok_iff, isPort_literal_iff, decimalText, String.toList_ofList]
    exact spells_iff_exists_zeros.mpr ⟨0, .inl rfl⟩
  · rw [portOfText_eq_ok_iff, isPort_literal_iff, spells_iff_exists_zeros]

example : portOfText "+0000000000000000000080" = .ok (.literal 80) := by decide
example : portOfText "18446744073709551696" = .error .tooLarge := by decide

end BodyCheck
