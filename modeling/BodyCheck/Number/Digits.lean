/-!
# Digits

A natural number as decimal digits, the leading one first, and back.  `decimalDigits` writes no
leading zeros; `digitsValue` reads any number of them.  A single digit may also be hexadecimal.
-/

namespace BodyCheck

/-- The digits of a natural number, the leading one first. -/
def decimalDigits (n : Nat) : List Char := Nat.toDigits 10 n

/-- A natural number as text. -/
def decimalText (n : Nat) : String := String.ofList (decimalDigits n)

/-- The value of a decimal digit. -/
def digitValue (ch : Char) : Nat := ch.toNat - '0'.toNat

/-- The value of digits that stand behind others with the given value. -/
def digitsValueFrom (value : Nat) : List Char → Nat
  | [] => value
  | ch :: rest => digitsValueFrom (value * 10 + digitValue ch) rest

/-- The value of a text of digits. -/
def digitsValue (digits : List Char) : Nat := digitsValueFrom 0 digits

/-- The value of a hexadecimal digit. -/
def hexValue? (ch : Char) : Option Nat :=
  if ch.isDigit then some (ch.toNat - '0'.toNat)
  else if 'a' ≤ ch ∧ ch ≤ 'f' then some (ch.toNat - 'a'.toNat + 10)
  else if 'A' ≤ ch ∧ ch ≤ 'F' then some (ch.toNat - 'A'.toNat + 10)
  else none

/-- A text of one or more decimal digits. -/
def isDigits (text : List Char) : Bool := !text.isEmpty && text.all Char.isDigit

theorem digitsValueFrom_cons (value : Nat) (ch : Char) (rest : List Char) :
    digitsValueFrom value (ch :: rest) = digitsValueFrom (value * 10 + digitValue ch) rest := by
  -- A plain `rfl` would compute with the digit.
  delta digitsValueFrom
  rfl

theorem digitsValueFrom_eq (value : Nat) (digits : List Char) :
    digitsValueFrom value digits = Nat.ofDigitChars 10 digits value := by
  induction digits generalizing value with
  | nil => exact Nat.ofDigitChars_nil.symm
  | cons ch rest ih =>
      rw [digitsValueFrom_cons, ih, Nat.ofDigitChars_cons, Nat.mul_comm value 10, digitValue]

theorem digitsValueFrom_nil (value : Nat) : digitsValueFrom value [] = value := by
  rw [digitsValueFrom_eq, Nat.ofDigitChars_nil]

theorem digitsValueFrom_append (value : Nat) (front back : List Char) :
    digitsValueFrom value (front ++ back) = digitsValueFrom (digitsValueFrom value front) back := by
  simp only [digitsValueFrom_eq, Nat.ofDigitChars_append]

/-- Another digit never makes a value smaller. -/
theorem le_digitsValueFrom (value : Nat) (digits : List Char) :
    value ≤ digitsValueFrom value digits := by
  induction digits generalizing value with
  | nil => exact Nat.le_of_eq (digitsValueFrom_nil value).symm
  | cons ch rest ih =>
      have next := ih (value * 10 + digitValue ch)
      rw [digitsValueFrom_cons]
      omega

/-- The digits of a number are read back as the number. -/
@[simp] theorem digitsValue_decimalDigits (n : Nat) : digitsValue (decimalDigits n) = n := by
  rw [digitsValue, digitsValueFrom_eq, decimalDigits, Nat.ofDigitChars_ten_toDigits]

/-- A number is written with digits, and with at least one. -/
@[simp] theorem isDigits_decimalDigits (n : Nat) : isDigits (decimalDigits n) = true := by
  have digit : ∀ ch ∈ Nat.toDigits 10 n, ch.isDigit = true :=
    fun ch h => Nat.isDigit_of_mem_toDigits (by decide) (by decide) h
  have some_digit : (Nat.toDigits 10 n).isEmpty = false := by
    rw [List.isEmpty_eq_false_iff]
    exact Nat.toDigits_ne_nil
  rw [isDigits, decimalDigits, some_digit, List.all_eq_true.mpr digit]
  rfl

example : decimalDigits 120 = ['1', '2', '0'] := by decide
example : digitsValue ['0', '1', '2', '0'] = 120 := by decide
example : isDigits [] = false := by decide

end BodyCheck
