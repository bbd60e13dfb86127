import BodyCheck.Number.Layout

/-!
# Doubles with infinities

Arithmetic that never fails: an overflow is an infinity, and what has no value, such as the
difference of two infinities, is not a number.  Every operation on finite doubles is the exact one,
rounded once.
-/

namespace BodyCheck

/-- A double, an infinity, or not a number. -/
inductive Extended where
  | finite (d : Double)
  | infinite (negative : Bool)
  | nan
deriving DecidableEq, Repr

namespace Extended

/-- The value rounded from `num / den`, an infinity if that is too large. -/
def ofRatio (negative : Bool) (num den : Nat) : Extended :=
  match Double.ofRatio negative num den with
  | some d => .finite d
  | none => .infinite negative

/-- The value nearest to a whole number. -/
def ofInt (n : Int) : Extended := ofRatio (n < 0) n.natAbs 1

/-- Zero. -/
def zero : Extended := .finite (.zero false)

/-- The value nearest to `digits * 10 ^ exponent`.  Exponents far out of range are not computed. -/
def ofDecimal (digits : Nat) (exponent : Int) : Extended :=
  let leading := exponent + (decimalDigits digits).length
  if digits = 0 then zero
  else if leading > 400 then .infinite false
  else if leading < -400 then zero
  else if 0 ≤ exponent then ofRatio false (digits * Nat.pow 10 exponent.toNat) 1
  else ofRatio false digits (Nat.pow 10 exponent.natAbs)

/-- The sign is minus. -/
def isNegative : Extended → Bool
  | .finite d => d.negative
  | .infinite negative => negative
  | .nan => false

/-- The value with the other sign. -/
def neg : Extended → Extended
  | .finite d => .finite d.neg
  | .infinite negative => .infinite !negative
  | .nan => .nan

/-- The value with the sign plus. -/
def abs : Extended → Extended
  | .finite d => .finite d.abs
  | .infinite _ => .infinite false
  | .nan => .nan

/-- The sum. -/
def add : Extended → Extended → Extended
  | .nan, _ | _, .nan => .nan
  | .infinite a, .infinite b => if a = b then .infinite a else .nan
  | .infinite a, .finite _ => .infinite a
  | .finite _, .infinite b => .infinite b
  | .finite a, .finite b =>
    match a.add? b with
    | some d => .finite d
    | none => .infinite a.negative

/-- The difference. -/
def sub (a b : Extended) : Extended := a.add b.neg

/-- The product. -/
def mul : Extended → Extended → Extended
  | .nan, _ | _, .nan => .nan
  | .infinite a, .infinite b => .infinite (a != b)
  | .infinite a, .finite b => if b.isZero then .nan else .infinite (a != b.negative)
  | .finite a, .infinite b => if a.isZero then .nan else .infinite (a.negative != b)
  | .finite a, .finite b =>
    match a.mul? b with
    | some d => .finite d
    | none => .infinite (a.negative != b.negative)

/-- The quotient. -/
def div : Extended → Extended → Extended
  | .nan, _ | _, .nan => .nan
  | .infinite _, .infinite _ => .nan
  | .infinite a, .finite b => .infinite (a != b.negative)
  | .finite a, .infinite b => .finite (.zero (a.negative != b))
  | .finite a, .finite b =>
    if b.isZero then if a.isZero then .nan else .infinite (a.negative != b.negative)
    else
      match a.div? b with
      | some d => .finite d
      | none => .infinite (a.negative != b.negative)

/-- The remainder of the division toward zero, with the sign of the dividend. -/
def rem : Extended → Extended → Extended
  | .nan, _ | _, .nan => .nan
  | .infinite _, _ => .nan
  | .finite a, .infinite _ => .finite a
  | .finite a, .finite b =>
    if b.isZero then .nan else ofRatio a.negative (a.units % b.units) Double.unitsPerOne

/-- The square root. -/
def sqrt : Extended → Extended
  | .nan => .nan
  | .infinite negative => if negative then .nan else .infinite false
  | .finite d =>
    if d.isZero then .finite d
    else if d.negative then .nan
    else
      let scaled := d.units * Double.unitsPerOne * Nat.pow 2 256
      let root := Nat.sqrt scaled
      ofRatio false (if root * root = scaled then 2 * root else 2 * root + 1)
        (2 * Double.unitsPerOne * Nat.pow 2 128)

/-! ## Whole numbers -/

/-- How a fraction is dropped. -/
inductive Rounding where
  | down
  | up
  | toZero
  /-- To the nearest whole number; a half goes away from zero. -/
  | halfAway
deriving DecidableEq, Repr

/-- The whole number next to a double. -/
def Rounding.apply (rounding : Rounding) (d : Double) : Int :=
  let whole := d.wholeMagnitude
  let fraction := d.units % Double.unitsPerOne
  let away :=
    match rounding with
    | .toZero => false
    | .down => d.negative && fraction != 0
    | .up => !d.negative && fraction != 0
    | .halfAway => decide (Double.unitsPerOne ≤ 2 * fraction)
  let magnitude : Int := if away then whole + 1 else whole
  if d.negative then -magnitude else magnitude

/-- The whole number in 64 bits with a sign that is next to a value; one out of range is the
nearest in range, and what is not a number counts as zero. -/
def toWord (rounding : Rounding) : Extended → Int
  | .finite d => max (-(Nat.pow 2 63 : Int)) (min (Nat.pow 2 63 - 1 : Int) (rounding.apply d))
  | .infinite negative => if negative then -(Nat.pow 2 63 : Int) else (Nat.pow 2 63 - 1 : Int)
  | .nan => 0

/-! ## Order -/

/-- The order in which what is not a number stands before everything, and the zeros are equal. -/
def compare : Extended → Extended → Ordering
  | .nan, _ => .lt
  | _, .nan => .gt
  | .infinite a, .infinite b => Ord.compare b.toNat a.toNat
  | .infinite a, .finite _ => if a then .lt else .gt
  | .finite _, .infinite b => if b then .gt else .lt
  | .finite a, .finite b => a.compareValue b

/-- The layout of numbers that have been computed. -/
def layout : NumberLayout := ⟨-4, 15, false⟩

example : (ofRatio false 1 10).add (ofRatio false 2 10) = ofDecimal 30000000000000004 (-17) := by
  decide +kernel
example : sqrt (ofInt 16) = ofInt 4 := by decide +kernel
example : (ofInt 5).rem (ofInt 0) = .nan := by decide +kernel

end Extended

end BodyCheck
