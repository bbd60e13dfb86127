import BodyCheck.Proofs.Taking
import Mathlib.Data.List.Basic

/-!
# Numerals

The texts of numbers (`IsNumeral`) and what is read from them.  A numeral ends where no digit, point
or exponent follows, so what is read from it does not depend on what follows a value
(`IsNumeral.exists_reads`).  Every number is written as a numeral (`Number.exists_isNumeral`).

`Number.reread?` is the number that is read from the text of a number.  A whole number that fits is
the same again (`Number.reread?_integer`).  A double need not be: its digits are gathered and scaled
with two roundings.
-/

namespace BodyCheck

/-! ## Digits -/

/-- The text starts with a digit. -/
def startsWithDigit : List Char → Bool
  | [] => false
  | ch :: _ => ch.isDigit

/-- Digits are taken up to the first other character. -/
theorem Cursor.spanDigits_append {digits rest : List Char} (h : ∀ ch ∈ digits, ch.isDigit)
    (stop : startsWithDigit rest = false) : spanDigits (digits ++ rest) = (digits, rest) := by
  induction digits with
  | nil =>
      cases rest with
      | nil => rfl
      | cons ch rest =>
          rw [startsWithDigit] at stop
          rw [List.nil_append, spanDigits, stop]
          rfl
  | cons ch digits ih =>
      rw [List.forall_mem_cons] at h
      rw [List.cons_append, spanDigits, if_pos h.1, ih h.2]

theorem startsWithDigit_of_endsValue {rest : List Char} (h : EndsValue rest) :
    startsWithDigit rest = false := by
  cases rest with
  | nil => rfl
  | cons ch rest => rcases h with rfl | rfl | rfl <;> rfl

theorem ne_of_isDigit {ch : Char} (h : ch.isDigit) (other : Char) (no : other.isDigit = false) :
    ch ≠ other := by
  rintro rfl
  rw [h] at no
  exact Bool.noConfusion no

/-- No digit is skipped as a blank. -/
theorem isBlank_of_isDigit {ch : Char} (h : ch.isDigit) : Cursor.isBlank ch = false := by
  simp [Cursor.isBlank, ne_of_isDigit h ' ' rfl, ne_of_isDigit h '\n' rfl, ne_of_isDigit h '\t' rfl,
    ne_of_isDigit h '\r' rfl]

theorem isDigits_iff {digits : List Char} :
    isDigits digits ↔ digits ≠ [] ∧ ∀ ch ∈ digits, ch.isDigit := by
  simp [isDigits]

theorem isDigits_append {a b : List Char} (ha : ∀ ch ∈ a, ch.isDigit) (hb : isDigits b) :
    isDigits (a ++ b) := by
  obtain ⟨some_digit, all⟩ := isDigits_iff.mp hb
  exact isDigits_iff.mpr ⟨by simp [some_digit], List.forall_mem_append.mpr ⟨ha, all⟩⟩

/-- A number other than zero is written without leading zeros. -/
theorem head?_decimalDigits {n : Nat} (h : n ≠ 0) : (decimalDigits n).head? ≠ some '0' := by
  induction n using Nat.strongRecOn with
  | ind n ih =>
      rw [decimalDigits, Nat.toDigits_eq_if (by decide)]
      split
      · next small =>
          have digits : ∀ d < 10, d ≠ 0 → [d.digitChar].head? ≠ some '0' := by decide
          exact digits n small h
      · next large =>
          have front := ih (n / 10) (by omega) (by omega)
          have some_digit := (isDigits_iff.mp (isDigits_decimalDigits (n / 10))).1
          rw [decimalDigits] at front some_digit
          rwa [List.head?_append_of_ne_nil _ some_digit]

/-! ## The texts of numbers -/

/-- The end of a numeral from its exponent on, if it has one. -/
inductive IsExponent : List Char → Prop
  | none : IsExponent []
  | plain {digits : List Char} (h : isDigits digits) : IsExponent ('e' :: digits)
  | plus {digits : List Char} (h : isDigits digits) : IsExponent ('e' :: '+' :: digits)
  | minus {digits : List Char} (h : isDigits digits) : IsExponent ('e' :: '-' :: digits)

/-- The end of a numeral behind its whole part. -/
inductive IsNumeralTail : List Char → Prop
  | whole {exponent : List Char} (h : IsExponent exponent) : IsNumeralTail exponent
  | fraction {digits exponent : List Char} (h : isDigits digits) (hx : IsExponent exponent) :
      IsNumeralTail ('.' :: (digits ++ exponent))

/-- A numeral without a sign. -/
inductive IsNumeral : List Char → Prop
  | zero {tail : List Char} (h : IsNumeralTail tail) : IsNumeral ('0' :: tail)
  | digits {ch : Char} {digits tail : List Char} (lead : ch ≠ '0') (h : isDigits (ch :: digits))
      (ht : IsNumeralTail tail) : IsNumeral (ch :: digits ++ tail)

theorem isNumeral_append {digits tail : List Char} (lead : digits.head? ≠ some '0')
    (h : isDigits digits) (ht : IsNumeralTail tail) : IsNumeral (digits ++ tail) := by
  obtain ⟨ch, rest, rfl⟩ := List.exists_cons_of_ne_nil (isDigits_iff.mp h).1
  exact .digits (by simpa using lead) h ht

/-- The first character of a numeral is a digit. -/
theorem IsNumeral.exists_cons {text : List Char} (h : IsNumeral text) :
    ∃ ch rest, text = ch :: rest ∧ ch.isDigit := by
  cases h with
  | zero _ => exact ⟨_, _, rfl, rfl⟩
  | digits _ hd _ => exact ⟨_, _, rfl, (isDigits_iff.mp hd).2 _ (List.mem_cons_self ..)⟩

/-! ## Reading numerals -/

namespace Json

/-- The value of a decimal is rounded without looking at the text again. -/
theorem exists_reads_scaled (negative : Bool) (significand : Nat) (exponent : Int) :
    ∃ result, Reads (scaled negative significand exponent) [] result := by
  have outcome : ∀ d : Option Double, ∀ c, taken (signed negative c d) =
      (d.map fun d => Number.double { d with negative }).map fun n => (n, c.rest) := by
    rintro (_ | d) c <;> rfl
  exact ⟨_, fun rest offset _ => by rw [scaled, outcome]; rfl⟩

theorem exponentDigits_cons (value : Nat) (ch : Char) (rest : List Char) (offset : Nat) :
    exponentDigits value (ch :: rest) offset =
      if value * 10 + digitValue ch ≤ greatestExponent then
        exponentDigits (value * 10 + digitValue ch) rest (offset + 1)
      else (value, some (offset + 1)) := by
  rw [exponentDigits]

/-- What is read of the digits of an exponent does not depend on the place where they stand, up to
the place of a digit that is left over. -/
theorem exists_exponentDigits_eq (digits : List Char) (value : Nat) :
    ∃ e left, ∀ offset,
      exponentDigits value digits offset = (e, Option.map (fun n => n + offset) left) := by
  induction digits generalizing value with
  | nil => exact ⟨value, none, fun _ => rfl⟩
  | cons ch digits ih =>
      by_cases within : value * 10 + digitValue ch ≤ greatestExponent
      · obtain ⟨e, left, outcome⟩ := ih (value * 10 + digitValue ch)
        refine ⟨e, left.map (· + 1), fun offset => ?_⟩
        rw [exponentDigits_cons, if_pos within, outcome, Option.map_map]
        refine congrArg (fun f => (e, Option.map f left)) (funext fun n => ?_)
        rw [Function.comp_apply, Nat.add_assoc, Nat.add_comm 1]
      · refine ⟨value, some 1, fun offset => ?_⟩
        rw [exponentDigits_cons, if_neg within, Option.map_some, Nat.add_comm 1]

/-- The digits of an exponent are read up to their end, or to the place where they get too many. -/
theorem exists_reads_exponentValue (negative : Bool) (significand : Nat) (exponent : Int)
    (minus : Bool) {digits : List Char} (h : isDigits digits) :
    ∃ result, Reads (exponentValue negative significand exponent minus) digits result := by
  obtain ⟨some_digit, all⟩ := isDigits_iff.mp h
  obtain ⟨ch, more, rfl⟩ := List.exists_cons_of_ne_nil some_digit
  have lead : ch.isDigit := all ch (List.mem_cons_self ..)
  have span : ∀ rest, EndsValue rest →
      Cursor.spanDigits (ch :: (more ++ rest)) = (ch :: more, rest) :=
    fun rest ends => Cursor.spanDigits_append all (startsWithDigit_of_endsValue ends)
  obtain ⟨e, left, outcome⟩ := exists_exponentDigits_eq (ch :: more) 0
  cases left with
  | none =>
      obtain ⟨result, reads⟩ := exists_reads_scaled negative significand
        (if minus then exponent - e else exponent + e)
      refine ⟨result, fun rest offset ends => ?_⟩
      rw [exponentValue]
      simp only [List.cons_append, if_pos lead, span rest ends, outcome]
      exact reads rest _ ends
  | some n =>
      by_cases lost : significand ≠ 0 ∧ !minus
      · refine ⟨none, fun rest offset ends => ?_⟩
        rw [exponentValue]
        simp only [List.cons_append, if_pos lead, span rest ends, outcome, Option.map_some,
          if_pos lost]
        rfl
      · refine ⟨some (.double (.zero negative)), fun rest offset ends => ?_⟩
        rw [exponentValue]
        simp only [List.cons_append, if_pos lead, span rest ends, outcome, Option.map_some,
          if_neg lost]
        rfl

/-- An exponent may have a sign. -/
theorem exists_reads_exponentPart (negative : Bool) (significand : Nat) (exponent : Int)
    {sign digits : List Char} (known : sign = [] ∨ sign = ['+'] ∨ sign = ['-'])
    (h : isDigits digits) :
    ∃ result, Reads (exponentPart negative significand exponent) (sign ++ digits) result := by
  rcases known with rfl | rfl | rfl
  · obtain ⟨result, reads⟩ := exists_reads_exponentValue negative significand exponent false h
    refine ⟨result, fun rest offset ends => ?_⟩
    obtain ⟨some_digit, all⟩ := isDigits_iff.mp h
    obtain ⟨ch, more, rfl⟩ := List.exists_cons_of_ne_nil some_digit
    have lead : ch.isDigit := all ch (List.mem_cons_self ..)
    have unsigned : exponentPart negative significand exponent ⟨ch :: (more ++ rest), offset⟩ =
        exponentValue negative significand exponent false ⟨ch :: (more ++ rest), offset⟩ := by
      unfold exponentPart
      split
      · next same =>
          cases same
          exact absurd lead (by decide)
      · next same =>
          cases same
          exact absurd lead (by decide)
      · rfl
    rw [List.nil_append, List.cons_append, unsigned]
    exact reads rest offset ends
  · obtain ⟨result, reads⟩ := exists_reads_exponentValue negative significand exponent false h
    exact ⟨result, fun rest offset ends => reads rest (offset + 1) ends⟩
  · obtain ⟨result, reads⟩ := exists_reads_exponentValue negative significand exponent true h
    exact ⟨result, fun rest offset ends => reads rest (offset + 1) ends⟩

/-- No digit follows a whole part or a fraction. -/
theorem startsWithDigit_append_of_isExponent {exponent rest : List Char} (h : IsExponent exponent)
    (ends : EndsValue rest) : startsWithDigit (exponent ++ rest) = false := by
  cases h with
  | none => exact startsWithDigit_of_endsValue ends
  | plain _ => rfl
  | plus _ => rfl
  | minus _ => rfl

/-- Neither an exponent nor the end of a value begins with a point. -/
theorem append_ne_point_of_isExponent {exponent rest : List Char} (h : IsExponent exponent)
    (ends : EndsValue rest) (more : List Char) : exponent ++ rest ≠ '.' :: more := by
  rintro same
  cases h with
  | none =>
      rw [List.nil_append] at same
      rw [same] at ends
      simp [EndsValue] at ends
  | plain _ => cases same
  | plus _ => cases same
  | minus _ => cases same

/-- Whether there is an exponent shows in the first character behind the digits. -/
theorem exists_reads_exponentOr {exponent plain : Reader Number} {tail : List Char}
    (h : IsExponent tail) (behind : ∀ sign digits, sign = [] ∨ sign = ['+'] ∨ sign = ['-'] →
      isDigits digits → ∃ result, Reads exponent (sign ++ digits) result)
    (alone : ∃ result, Reads plain [] result) :
    ∃ result, Reads (exponentOr exponent plain) tail result := by
  cases h with
  | none =>
      obtain ⟨result, reads⟩ := alone
      refine ⟨result, fun rest offset ends => ?_⟩
      rw [← reads rest offset ends]
      cases rest with
      | nil => rfl
      | cons ch rest => rcases ends with rfl | rfl | rfl <;> rfl
  | plain digits =>
      obtain ⟨result, reads⟩ := behind [] _ (.inl rfl) digits
      exact ⟨result, fun rest offset ends => reads rest (offset + 1) ends⟩
  | plus digits =>
      obtain ⟨result, reads⟩ := behind ['+'] _ (.inr (.inl rfl)) digits
      exact ⟨result, fun rest offset ends => reads rest (offset + 1) ends⟩
  | minus digits =>
      obtain ⟨result, reads⟩ := behind ['-'] _ (.inr (.inr rfl)) digits
      exact ⟨result, fun rest offset ends => reads rest (offset + 1) ends⟩

/-- A fraction is read up to the exponent or the end of the value. -/
theorem exists_reads_fractionPart (negative : Bool) (significand : Nat) (exponent : Int)
    {digits tail : List Char} (h : isDigits digits) (hx : IsExponent tail) :
    ∃ result, Reads (fractionPart negative significand exponent) (digits ++ tail) result := by
  obtain ⟨some_digit, all⟩ := isDigits_iff.mp h
  have filled : digits.isEmpty = false := by simpa using some_digit
  have span : ∀ rest, EndsValue rest →
      Cursor.spanDigits (digits ++ (tail ++ rest)) = (digits, tail ++ rest) :=
    fun rest ends => Cursor.spanDigits_append all (startsWithDigit_append_of_isExponent hx ends)
  generalize gathered : gather significand digits = found
  obtain ⟨value, left⟩ := found
  obtain ⟨result, reads⟩ := exists_reads_exponentOr hx
    (fun _ _ => exists_reads_exponentPart negative value (exponent - (digits.length - left : Nat)))
    (exists_reads_scaled negative value (exponent - (digits.length - left : Nat)))
  refine ⟨result, fun rest offset ends => ?_⟩
  rw [List.append_assoc, fractionPart]
  simp only [span rest ends, filled, gathered, Bool.false_eq_true, if_false]
  exact reads rest _ ends

theorem exists_reads_whole (negative : Bool) (magnitude : Nat) :
    ∃ result, Reads (whole negative magnitude) [] result := by
  unfold whole
  split
  · exact ⟨some _, fun _ _ _ => rfl⟩
  · split
    · exact ⟨some _, fun _ _ _ => rfl⟩
    · exact exists_reads_scaled true magnitude 0

theorem exists_reads_wholePart (negative : Bool) (significand left : Nat) :
    ∃ result, Reads (wholePart negative significand left) [] result := by
  unfold wholePart
  split
  · exact exists_reads_whole negative significand
  · exact exists_reads_scaled negative significand left

/-- What follows the whole part is an exponent, a fraction or the end of the value. -/
theorem exists_reads_afterWhole (negative : Bool) (digits : List Char) {tail : List Char}
    (h : IsNumeralTail tail) : ∃ result, Reads (afterWhole negative digits) tail result := by
  generalize gathered : gather 0 digits = found
  obtain ⟨value, left⟩ := found
  cases h with
  | whole hx =>
      obtain ⟨result, reads⟩ := exists_reads_exponentOr hx
        (fun _ _ => exists_reads_exponentPart negative value left)
        (exists_reads_wholePart negative value left)
      refine ⟨result, fun rest offset ends => ?_⟩
      rw [← reads rest offset ends, afterWhole]
      simp only [gathered]
      split
      · next same => exact absurd same (append_ne_point_of_isExponent hx ends _)
      · rfl
  | fraction hd hx =>
      obtain ⟨result, reads⟩ := exists_reads_fractionPart negative value left hd hx
      refine ⟨result, fun rest offset ends => ?_⟩
      rw [← reads rest (offset + 1) ends, afterWhole]
      simp only [gathered, List.cons_append]

/-- A whole part ends where the rest of its numeral begins. -/
theorem startsWithDigit_append_of_isNumeralTail {tail rest : List Char} (h : IsNumeralTail tail)
    (ends : EndsValue rest) : startsWithDigit (tail ++ rest) = false := by
  cases h with
  | whole hx => exact startsWithDigit_append_of_isExponent hx ends
  | fraction _ _ => rfl

/-- What is read of a numeral does not depend on what follows it. -/
theorem exists_reads_numberPart (negative : Bool) {text : List Char} (h : IsNumeral text) :
    ∃ result, Reads (numberPart negative) text result := by
  cases h with
  | zero ht =>
      obtain ⟨result, reads⟩ := exists_reads_afterWhole negative ['0'] ht
      refine ⟨result, fun rest offset ends => ?_⟩
      rw [← reads rest (offset + 1) ends, List.cons_append, numberPart]
      simp only [if_true]
      have stop := startsWithDigit_append_of_isNumeralTail ht ends
      split
      · next ch more same =>
          rw [same, startsWithDigit] at stop
          rw [stop, same]
          rfl
      · next same => rw [same]
  | @digits ch digits tail lead hd ht =>
      obtain ⟨_, all⟩ := isDigits_iff.mp hd
      obtain ⟨result, reads⟩ := exists_reads_afterWhole negative (ch :: digits) ht
      refine ⟨result, fun rest offset ends => ?_⟩
      have span : Cursor.spanDigits (ch :: (digits ++ (tail ++ rest))) =
          (ch :: digits, tail ++ rest) :=
        Cursor.spanDigits_append all (startsWithDigit_append_of_isNumeralTail ht ends)
      rw [← reads rest (offset + (ch :: digits).length) ends, List.append_assoc, List.cons_append,
        numberPart]
      simp only [if_neg lead, if_pos (all ch (List.mem_cons_self ..)), span]

end Json

/-! ## Writing numerals -/

theorem isNumeralTail_point {digits : List Char} (h : isDigits digits) :
    IsNumeralTail ('.' :: digits) := by
  rw [← List.append_nil digits]
  exact .fraction h .none

/-- The digits of a natural number are a numeral. -/
theorem isNumeral_decimalDigits (n : Nat) : IsNumeral (decimalDigits n) := by
  by_cases zero : n = 0
  · rw [zero]
    exact .zero (.whole .none)
  · rw [← List.append_nil (decimalDigits n)]
    exact isNumeral_append (head?_decimalDigits zero) (isDigits_decimalDigits n) (.whole .none)

namespace Decimal

/-- A double without an exponent is written as a numeral. -/
theorem isNumeral_plain {d : Decimal} (h : d.digits ≠ 0) : IsNumeral d.plain := by
  have lead := head?_decimalDigits h
  have digits := isDigits_decimalDigits d.digits
  obtain ⟨some_digit, all⟩ := isDigits_iff.mp digits
  have zeros : ∀ n, ∀ ch ∈ List.replicate n '0', ch.isDigit := by
    intro n ch mem
    rw [List.eq_of_mem_replicate mem]
    rfl
  rw [plain]
  dsimp only
  split
  · refine isNumeral_append ?_ ?_ (isNumeralTail_point rfl)
    · rwa [List.head?_append_of_ne_nil _ some_digit]
    · exact isDigits_iff.mpr ⟨by simp [some_digit], List.forall_mem_append.mpr ⟨all, zeros _⟩⟩
  · split
    · next fraction inside =>
        refine isNumeral_append ?_
          (isDigits_iff.mpr ⟨?_, fun ch mem => all ch (List.mem_of_mem_take mem)⟩)
          (isNumeralTail_point
            (isDigits_iff.mpr ⟨?_, fun ch mem => all ch (List.mem_of_mem_drop mem)⟩))
        · rwa [List.head?_take, if_neg (by omega)]
        · simp only [Ne, List.take_eq_nil_iff, some_digit, or_false]
          omega
        · rw [Ne, List.drop_eq_nil_iff]
          omega
    · exact .zero (isNumeralTail_point (isDigits_append (zeros _) digits))

theorem isExponent_exponentText (e : Int) :
    IsExponent ('e' :: NumberLayout.json.exponentText e) := by
  rw [NumberLayout.exponentText]
  split
  · exact .minus (isDigits_decimalDigits _)
  · exact .plus (isDigits_decimalDigits _)

/-- A double with an exponent is written as a numeral. -/
theorem isNumeral_scientific {d : Decimal} (h : d.digits ≠ 0) :
    IsNumeral (d.scientific .json) := by
  have lead := head?_decimalDigits h
  obtain ⟨some_digit, all⟩ := isDigits_iff.mp (isDigits_decimalDigits d.digits)
  have exponent := isExponent_exponentText (d.exponent + (decimalDigits d.digits).length - 1)
  have front : isDigits ((decimalDigits d.digits).take 1) :=
    isDigits_iff.mpr ⟨by simp [some_digit], fun ch mem => all ch (List.mem_of_mem_take mem)⟩
  rw [scientific, List.append_assoc]
  refine isNumeral_append ?_ front ?_
  · rwa [List.head?_take, if_neg Nat.one_ne_zero]
  · split
    · exact .whole exponent
    · next long =>
        have behind : isDigits ((decimalDigits d.digits).drop 1) := by
          refine isDigits_iff.mpr ⟨?_, fun ch mem => all ch (List.mem_of_mem_drop mem)⟩
          rw [Ne, List.drop_eq_nil_iff]
          exact long
        exact .fraction behind exponent

theorem isNumeral_render (d : Decimal) : IsNumeral (d.render .json) := by
  rw [render]
  split
  · exact .zero (isNumeralTail_point rfl)
  · next some_digit =>
      split
      · exact isNumeral_plain some_digit
      · exact isNumeral_scientific some_digit

end Decimal

/-- Every number is written as a numeral, behind a sign if it is negative. -/
theorem Number.exists_isNumeral (n : Number) :
    ∃ text, IsNumeral text ∧ (Json.numberText n = text ∨ Json.numberText n = '-' :: text) := by
  cases n with
  | integer n =>
      refine ⟨decimalDigits n.natAbs, isNumeral_decimalDigits _, ?_⟩
      rw [Json.numberText, Json.integerText]
      split
      · exact .inr rfl
      · exact .inl rfl
  | double d =>
      refine ⟨d.shortest.render .json, Decimal.isNumeral_render _, ?_⟩
      rw [Json.numberText, Double.render]
      split
      · exact .inr rfl
      · exact .inl rfl

namespace Json

/-- A value that begins with a digit is a number. -/
theorem valueOver_digit (item : Option (Reader Json)) {ch : Char} (h : ch.isDigit)
    (rest : List Char) (offset : Nat) : valueOver item ⟨ch :: rest, offset⟩ = do
      let (n, c') ← numberPart false ⟨ch :: rest, offset⟩
      return (.number n, c') := by
  have other := ne_of_isDigit h
  rw [valueOver, Cursor.skipBlanks_cons (isBlank_of_isDigit h)]
  dsimp only
  split
  · exact absurd rfl (other 'n' rfl)
  · exact absurd rfl (other 't' rfl)
  · exact absurd rfl (other 'f' rfl)
  · exact absurd rfl (other '-' rfl)
  · exact absurd rfl (other '"' rfl)
  · exact absurd rfl (other '[' rfl)
  · exact absurd rfl (other '\x7b' rfl)
  · rw [if_pos h]

/-- A value that begins with a minus sign is a negative number. -/
theorem valueOver_minus (item : Option (Reader Json)) (rest : List Char) (offset : Nat) :
    valueOver item ⟨'-' :: rest, offset⟩ = do
      let (n, c') ← numberPart true ⟨rest, offset + 1⟩
      return (.number n, c') := by
  rw [valueOver, Cursor.skipBlanks_cons rfl]
  rfl

/-- The text of a number is read in the same way at every depth. -/
theorem exists_reads_numberText (n : Number) :
    ∃ result : Option Number, ∀ item,
      Reads (valueOver item) (numberText n) (result.map .number) := by
  obtain ⟨text, numeral, unsigned | signed⟩ := n.exists_isNumeral
  · obtain ⟨result, reads⟩ := exists_reads_numberPart false numeral
    obtain ⟨ch, more, rfl, digit⟩ := numeral.exists_cons
    refine ⟨result, fun item rest offset ends => ?_⟩
    rw [unsigned, List.cons_append, valueOver_digit item digit, taken_map]
    have := reads rest offset ends
    rw [List.cons_append] at this
    rw [this]
    cases result <;> rfl
  · obtain ⟨result, reads⟩ := exists_reads_numberPart true numeral
    refine ⟨result, fun item rest offset ends => ?_⟩
    rw [signed, List.cons_append, valueOver_minus, taken_map, reads rest (offset + 1) ends]
    cases result <;> rfl

end Json

/-! ## Reading again -/

namespace Number

/-- The number that is read from the text of a number. -/
def reread? (n : Number) : Option Number :=
  match Json.read (Json.numberText n) with
  | .ok (.number m) => some m
  | _ => none

/-- The text of a number is read as the number that it is reread as, whatever follows it. -/
theorem reads_reread? (n : Number) (depth : Nat) :
    Reads (Json.value depth) (Json.numberText n) (n.reread?.map .number) := by
  obtain ⟨result, reads⟩ := Json.exists_reads_numberText n
  have same : n.reread? = result := by
    obtain ⟨item, form⟩ := Json.exists_value_eq Json.greatestDepth
    have whole := Json.toOption_read (form ▸ reads item)
    rw [reread?]
    cases outcome : Json.read (Json.numberText n) with
    | error f =>
        rw [outcome] at whole
        cases result with
        | none => rfl
        | some m => cases whole
    | ok v =>
        rw [outcome] at whole
        cases result with
        | none => cases whole
        | some m =>
            obtain rfl : v = .number m := by
              simpa [Except.toOption, Json.merged] using whole
            rfl
  obtain ⟨item, form⟩ := Json.exists_value_eq depth
  rw [same, form]
  exact reads item

end Number

/-! ## Whole numbers -/

namespace Json

theorem gather_cons (significand : Nat) (ch : Char) (rest : List Char) :
    gather significand (ch :: rest) =
      if significand * 10 + digitValue ch < Nat.pow 2 64 then
        gather (significand * 10 + digitValue ch) rest
      else (significand, rest.length + 1) := by
  rw [gather]

/-- Digits whose value fits into 64 bits are gathered to their end. -/
theorem gather_eq {significand : Nat} {digits : List Char}
    (h : digitsValueFrom significand digits < Nat.pow 2 64) :
    gather significand digits = (digitsValueFrom significand digits, 0) := by
  induction digits generalizing significand with
  | nil => rfl
  | cons ch rest ih =>
      rw [digitsValueFrom_cons] at h ⊢
      rw [gather_cons, if_pos (Nat.lt_of_le_of_lt (le_digitsValueFrom _ rest) h), ih h]

/-- A whole number that fits is read off its digits. -/
theorem exists_numberPart_decimalDigits (negative : Bool) {n : Nat} (h : n < Nat.pow 2 64)
    (offset : Nat) : ∃ offset', numberPart negative ⟨decimalDigits n, offset⟩ =
      whole negative n ⟨[], offset'⟩ := by
  have gathered : gather 0 (decimalDigits n) = (n, 0) := by
    have value : digitsValueFrom 0 (decimalDigits n) = n := digitsValue_decimalDigits n
    rw [gather_eq (by rwa [value]), value]
  have stored : ∀ c : Cursor, c.rest = [] →
      afterWhole negative (decimalDigits n) c = whole negative n c := by
    intro c left
    rw [afterWhole, gathered]
    simp only [left, exponentOr, wholePart, if_true]
  by_cases zero : n = 0
  · subst zero
    exact ⟨offset + 1, stored ⟨[], offset + 1⟩ rfl⟩
  · obtain ⟨some_digit, all⟩ := isDigits_iff.mp (isDigits_decimalDigits n)
    have lead := head?_decimalDigits zero
    obtain ⟨ch, rest, front⟩ := List.exists_cons_of_ne_nil some_digit
    have span : Cursor.spanDigits (decimalDigits n ++ []) = (decimalDigits n, []) :=
      Cursor.spanDigits_append all rfl
    rw [List.append_nil] at span
    refine ⟨offset + (decimalDigits n).length, ?_⟩
    rw [← stored _ rfl]
    rw [front] at lead all span ⊢
    rw [numberPart]
    simp only [span]
    rw [if_neg (by simpa using lead), if_pos (all ch (List.mem_cons_self ..))]

theorem reads_numberPart_decimalDigits {n : Nat} (h : n < Nat.pow 2 64) :
    Reads (numberPart false) (decimalDigits n) (some (.integer n)) := by
  obtain ⟨result, reads⟩ := exists_reads_numberPart false (isNumeral_decimalDigits n)
  obtain ⟨offset, outcome⟩ := exists_numberPart_decimalDigits false h 0
  have alone := reads [] 0 trivial
  rw [List.append_nil, outcome, whole, if_pos (by decide), taken_ok] at alone
  cases result with
  | none => cases alone
  | some m =>
      cases alone
      exact reads

theorem integerText_natCast (n : Nat) : integerText n = decimalDigits n := by
  rw [integerText, if_neg (by omega), List.nil_append, Int.natAbs_natCast]

end Json

/-- A whole number that a document can hold is read back from its text. -/
theorem Number.reread?_integer {n : Int} (h : (Number.integer n).InRange) :
    reread? (.integer n) = some (.integer n) := by
  have low : -(Nat.pow 2 63 : Int) ≤ n := h.1
  have high : n < Nat.pow 2 64 := h.2
  have bounds : Nat.pow 2 63 < Nat.pow 2 64 := by decide
  have back : taken (Json.valueOver none ⟨Json.integerText n, 0⟩) =
      some (.number (.integer n), []) := by
    rw [Json.integerText]
    by_cases negative : n < 0
    · obtain ⟨offset, outcome⟩ := Json.exists_numberPart_decimalDigits true
        (show n.natAbs < Nat.pow 2 64 by omega) 1
      rw [if_pos negative, List.singleton_append, Json.valueOver_minus, taken_map, outcome,
        Json.whole, if_neg (by decide), if_pos ⟨by omega, by omega⟩, taken_ok, Option.map_some]
      rw [Int.ofNat_natAbs_of_nonpos (by omega), Int.neg_neg]
    · obtain ⟨offset, outcome⟩ := Json.exists_numberPart_decimalDigits false
        (show n.natAbs < Nat.pow 2 64 by omega) 0
      obtain ⟨ch, rest, front, digit⟩ := (isNumeral_decimalDigits n.natAbs).exists_cons
      rw [if_neg negative, List.nil_append, front, Json.valueOver_digit none digit, taken_map,
        ← front, outcome, Json.whole, if_pos (by decide), taken_ok, Option.map_some]
      rw [Int.natAbs_of_nonneg (by omega)]
  have reads := reads_reread? (.integer n) 0 [] 0 trivial
  rw [List.append_nil, Json.numberText, Json.value, back] at reads
  cases outcome : reread? (.integer n) with
  | none =>
      rw [outcome] at reads
      cases reads
  | some m =>
      rw [outcome] at reads
      cases reads
      rfl

end BodyCheck
