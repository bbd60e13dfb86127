import BodyCheck.Number.Extended

/-!
# Functions on doubles

Functions that are computed on units, exactly or with one rounding at the end.  What is not finite
is answered case by case.
-/

namespace BodyCheck

namespace Extended

/-! ## Parts of a double -/

/-- A function on finite doubles; anything else stays as it is. -/
def onFinite (f : Double → Extended) : Extended → Extended
  | .finite d => f d
  | x => x

/-- The value without its fraction, with its sign. -/
def truncated : Extended → Extended := onFinite fun d => ofRatio d.negative d.wholeMagnitude 1

/-- The nearest whole value; a half goes to the even neighbour. -/
def nearestEven : Extended → Extended :=
  onFinite fun d => ofRatio d.negative (roundHalfEven d.units Double.unitsPerOne) 1

/-- The nearest whole value; a half goes away from zero. -/
def nearestAway : Extended → Extended :=
  onFinite fun d => ofRatio d.negative (Rounding.halfAway.apply d).natAbs 1

/-- The fraction of a value and the rest of it, both with its sign. -/
def split : Extended → Extended × Extended
  | .finite d =>
    (ofRatio d.negative (d.units % Double.unitsPerOne) Double.unitsPerOne,
      ofRatio d.negative d.wholeMagnitude 1)
  | .infinite negative => (.finite (.zero negative), .infinite negative)
  | .nan => (.nan, .nan)

/-- The exponent of the greatest power of two that a magnitude other than zero reaches. -/
def exponentOf (d : Double) : Int := (Nat.log2 d.units : Int) - 1074

/-- A value times a power of two. -/
def timesTwoTo (x : Extended) (e : Int) : Extended :=
  onFinite (fun d =>
    let e := max (-5000) (min 5000 e)
    ofRatio d.negative (d.units * Nat.pow 2 e.toNat) (Double.unitsPerOne * Nat.pow 2 (-e).toNat)) x

/-- A value as a fraction from one half up to one times a power of two, and the exponent of that. -/
def fractionAndExponent : Extended → Extended × Int
  | .finite d =>
    if d.isZero then (.finite d, 0)
    else (timesTwoTo (.finite d) (-exponentOf d - 1), exponentOf d + 1)
  | x => (x, 0)

/-- The exponent of the greatest power of two that a value reaches, as a whole number of 32 bits. -/
def wholeExponent : Extended → Int
  | .finite d => if d.isZero then -(Nat.pow 2 31 : Int) else exponentOf d
  | .infinite _ => (Nat.pow 2 31 - 1 : Int)
  | .nan => -(Nat.pow 2 31 : Int)

/-- The exponent of the greatest power of two that a value reaches. -/
def exponentValue : Extended → Extended
  | .finite d => if d.isZero then .infinite true else ofInt (exponentOf d)
  | .infinite _ => .infinite false
  | .nan => .nan

/-- A value over the greatest power of two that it reaches. -/
def significand : Extended → Extended :=
  onFinite fun d => if d.isZero then .finite d else timesTwoTo (.finite d) (-exponentOf d)

/-! ## Signs and neighbours -/

/-- A value with the sign of another one. -/
def withSignOf (x y : Extended) : Extended := if x.isNegative = y.isNegative then x else x.neg

/-- The lesser one of two values.  What is not a number does not count. -/
def least : Extended → Extended → Extended
  | .nan, y => y
  | x, .nan => x
  | x, y =>
    if x.isNegative ≠ y.isNegative then if x.isNegative then x else y
    else if x.compare y == .gt then y else x

/-- The greater one of two values.  What is not a number does not count. -/
def greatest : Extended → Extended → Extended
  | .nan, y => y
  | x, .nan => x
  | x, y =>
    if x.isNegative ≠ y.isNegative then if x.isNegative then y else x
    else if x.compare y == .lt then y else x

/-- How far a value lies above another one, or zero. -/
def excess : Extended → Extended → Extended
  | .nan, _ | _, .nan => .nan
  | x, y => if x.compare y == .gt then x.sub y else zero

/-- The magnitudes in their order; the one behind the greatest finite one is infinite. -/
def ofRank (negative : Bool) (rank : Nat) : Extended :=
  match Double.ofRank? negative rank with
  | some d => .finite d
  | none => .infinite negative

/-- The neighbour of a value in the direction of another one. -/
def neighbour (x y : Extended) : Extended :=
  match x, y with
  | .nan, _ | _, .nan => .nan
  | .infinite negative, _ =>
    if x.compare y == .eq then y else ofRank negative (Double.limit - 1)
  | .finite d, _ =>
    if x.compare y == .eq then y
    else if d.isZero then ofRank y.isNegative 1
    else if (x.compare y == .lt) = d.negative then ofRank d.negative (d.rank - 1)
    else ofRank d.negative (d.rank + 1)

/-! ## Several operations with one rounding -/

/-- The square root of a number of square units. -/
def rootOfSquareUnits (n : Nat) : Extended :=
  let scaled := n * Nat.pow 2 256
  let root := Nat.sqrt scaled
  ofRatio false (if root * root = scaled then 2 * root else 2 * root + 1)
    (2 * Double.unitsPerOne * Nat.pow 2 128)

/-- The length of the diagonal of a rectangle. -/
def diagonal : Extended → Extended → Extended
  | .infinite _, _ | _, .infinite _ => .infinite false
  | .nan, _ | _, .nan => .nan
  | .finite a, .finite b => rootOfSquareUnits (Nat.pow a.units 2 + Nat.pow b.units 2)

/-- A product and a sum in one. -/
def multiplyAdd (x y z : Extended) : Extended :=
  match x, y, z with
  | .finite a, .finite b, .finite c =>
    let sum := a.signedUnits * b.signedUnits + c.signedUnits * Double.unitsPerOne
    if sum = 0 then (x.mul y).add z
    else ofRatio (sum < 0) sum.natAbs (Double.unitsPerOne * Double.unitsPerOne)
  | .finite _, .finite _, z => z
  | _, _, _ => (x.mul y).add z

/-- The remainder of the division to the nearest whole number. -/
def nearestRem : Extended → Extended → Extended
  | .nan, _ | _, .nan | .infinite _, _ => .nan
  | .finite a, .infinite _ => .finite a
  | .finite a, .finite b =>
    if b.isZero then .nan
    else
      let rest : Int := (a.units : Int) - roundHalfEven a.units b.units * b.units
      ofRatio (a.negative != decide (rest < 0)) rest.natAbs Double.unitsPerOne

example : diagonal (ofInt 3) (ofInt (-4)) = ofInt 5 := by decide +kernel
example : nearestRem (ofInt 5) (ofInt 3) = ofInt (-1) := by decide +kernel
example : fractionAndExponent (ofInt (-4)) = (ofRatio true 1 2, 3) := by decide +kernel

end Extended

end BodyCheck
