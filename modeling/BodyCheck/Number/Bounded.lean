import BodyCheck.Number.Digits

/-!
# Numerals within bounds

A numeral is one or more decimal digits behind an optional sign.  Its digits are read one after the
other, and the first one that is no digit, or takes the number beyond the bound, decides.
-/

namespace BodyCheck

/-- Why a text is no numeral within bounds. -/
inductive NumeralError where
  | empty
  | invalidDigit
  | tooLarge
  | tooSmall
deriving DecidableEq, Repr

/-- The wording of an error. -/
def NumeralError.message : NumeralError → String
  | .empty => "cannot parse integer from empty string"
  | .invalidDigit => "invalid digit found in string"
  | .tooLarge => "number too large to fit in target type"
  | .tooSmall => "number too small to fit in target type"

/-- The value of digits that stand behind others with the given value. -/
def boundedFrom (greatest : Nat) (beyond : NumeralError) (value : Nat) :
    List Char → Except NumeralError Nat
  | [] => .ok value
  | ch :: rest =>
    if !ch.isDigit then .error .invalidDigit
    else
      let value := value * 10 + digitValue ch
      if value ≤ greatest then boundedFrom greatest beyond value rest else .error beyond

/-- The value of one or more digits. -/
def bounded (greatest : Nat) (beyond : NumeralError) : List Char → Except NumeralError Nat
  | [] => .error .invalidDigit
  | digits => boundedFrom greatest beyond 0 digits

/-- The value of a numeral that has to fit into 16 bits.  The sign can only be a plus. -/
def readWord16 : List Char → Except NumeralError Nat
  | [] => .error .empty
  | '+' :: digits => bounded (Nat.pow 2 16 - 1) .tooLarge digits
  | digits => bounded (Nat.pow 2 16 - 1) .tooLarge digits

/-- The value of a numeral that has to fit into 64 bits with a sign. -/
def readInt64 : List Char → Except NumeralError Int
  | [] => .error .empty
  | '+' :: digits => (bounded (Nat.pow 2 63 - 1) .tooLarge digits).map Int.ofNat
  | '-' :: digits => (bounded (Nat.pow 2 63) .tooSmall digits).map fun n => -(n : Int)
  | digits => (bounded (Nat.pow 2 63 - 1) .tooLarge digits).map Int.ofNat

example : readWord16 ['+', '0', '8', '0'] = .ok 80 := rfl
example : readWord16 ['6', '5', '5', '3', '6', 'x'] = .error .tooLarge := rfl
example : readWord16 ['6', '5', '5', '3', 'x'] = .error .invalidDigit := rfl
example : readWord16 ['+'] = .error .invalidDigit := rfl

end BodyCheck
