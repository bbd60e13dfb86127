/-!
# Finite doubles

A double is a 64-bit binary floating-point number.  The magnitudes of the finite doubles are
numbered from zero upwards, and a double is a sign and such a number, its *rank*.  So the order of
magnitudes is the order of ranks, two doubles are equal when their fields are, and a rank at or
above `Double.limit` is an overflow.

Every magnitude is a whole number of *units* of `2 ^ (-1074)`.  All arithmetic is done on units in
natural numbers and rounded once, to the nearest double and on a tie to the one with the even
mantissa (`Double.ofRatio`).
-/

namespace BodyCheck

/-! ## Rounding a quotient -/

/-- The whole number nearest to `num / den`; a tie goes to the even neighbour. -/
def roundHalfEven (num den : Nat) : Nat :=
  let q := num / den
  let r := num % den
  if 2 * r < den then q
  else if den < 2 * r then q + 1
  else if q % 2 = 0 then q else q + 1

/-! ## The type -/

/-- A finite double: a sign and the rank of its magnitude. -/
structure Double where
  /-- The sign is minus.  Zero has both signs. -/
  negative : Bool
  /-- The number of smaller magnitudes. -/
  rank : Nat
  /-- Only finite magnitudes have a rank. -/
  rank_lt : rank < 2047 * Nat.pow 2 52
deriving DecidableEq, Repr

namespace Double

/-- The least rank that stands for no finite double. -/
def limit : Nat := 2047 * Nat.pow 2 52

/-- How many units make one: `2 ^ 1074`. -/
def unitsPerOne : Nat := Nat.pow 2 1074

/-- Zero, with the given sign. -/
def zero (negative : Bool) : Double := ⟨negative, 0, by decide⟩

instance : Inhabited Double := ⟨zero false⟩

/-- The double of the given rank, unless that overflows. -/
def ofRank? (negative : Bool) (rank : Nat) : Option Double :=
  if h : rank < 2047 * Nat.pow 2 52 then some ⟨negative, rank, h⟩ else none

/-- The power of two, counted in units, that one step of the mantissa is worth. -/
def scale (d : Double) : Nat := d.rank / Nat.pow 2 52 - 1

/-- The mantissa: a magnitude is `mantissa * 2 ^ scale` units. -/
def mantissa (d : Double) : Nat := d.rank - d.scale * Nat.pow 2 52

/-- The magnitude in units. -/
def units (d : Double) : Nat := d.mantissa * Nat.pow 2 d.scale

/-- The double with the other sign. -/
def neg (d : Double) : Double := { d with negative := !d.negative }

/-- The double with the sign plus. -/
def abs (d : Double) : Double := { d with negative := false }

/-- The value is zero, of either sign. -/
def isZero (d : Double) : Bool := d.rank == 0

/-- The value in units, with its sign. -/
def signedUnits (d : Double) : Int :=
  if d.negative then -(d.units : Int) else d.units

/-! ## Rounding to a double -/

/-- The double nearest to `num / den`; a tie goes to the even mantissa.  There is none when the
quotient rounds past the greatest finite double. -/
def ofRatio (negative : Bool) (num den : Nat) : Option Double :=
  let scale := Nat.log2 (num * unitsPerOne / den) - 52
  ofRank? negative
    (scale * Nat.pow 2 52 + roundHalfEven (num * unitsPerOne) (den * Nat.pow 2 scale))

/-- The double nearest to a natural number. -/
def ofNat? (n : Nat) : Option Double := ofRatio false n 1

/-- The rounded product of two magnitudes. -/
def mul? (a b : Double) : Option Double :=
  ofRatio (a.negative != b.negative) (a.units * b.units) (unitsPerOne * unitsPerOne)

/-- The rounded quotient of two magnitudes; the divisor is not zero. -/
def div? (a b : Double) : Option Double :=
  ofRatio (a.negative != b.negative) a.units b.units

/-- The rounded sum.  An exact zero has the sign plus unless both terms have the sign minus. -/
def add? (a b : Double) : Option Double :=
  let sum := a.signedUnits + b.signedUnits
  if sum = 0 then some (zero (a.negative && b.negative))
  else ofRatio (sum < 0) sum.natAbs unitsPerOne

/-! ## Whole values and order -/

/-- The value is a whole number. -/
def isWhole (d : Double) : Bool := d.units % unitsPerOne == 0

/-- The magnitude without its fraction. -/
def wholeMagnitude (d : Double) : Nat := d.units / unitsPerOne

/-- The order of values; the two zeros are equal. -/
def compareValue (a b : Double) : Ordering := compare a.signedUnits b.signedUnits

/-! ## Sample values -/

example : (ofNat? 1).map rank = some (1023 * 2 ^ 52) := by decide +kernel
example : (ofRatio false 1 10).map units = some (3602879701896397 * 2 ^ 1019) := by decide +kernel
example : (ofNat? (2 ^ 53 + 1)).map wholeMagnitude = some (2 ^ 53) := by decide +kernel
example : ofNat? (2 ^ 1024) = none := by decide +kernel
example : (ofRatio false 1 (2 ^ 1074)).map rank = some 1 := by decide +kernel

end Double

end BodyCheck
