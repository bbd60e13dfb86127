import BodyCheck.Number.Double

/-!
# The shortest decimal digits of a double

Every double stands for an interval of reals, those that round to it.  Its ends lie half a step
of the mantissa above and below the value, and belong to it when the mantissa is even.  The
shortest digits are found on decimal grids, from coarse to fine: the first grid with a point in the
interval wins, and of two such points on that grid the one nearer to the value.

All comparisons are between natural numbers.  The value and the ends are counted in quarter units,
so that half a step below a power of two is whole.
-/

namespace BodyCheck

/-- A decimal: `digits * 10 ^ exponent`. -/
structure Decimal where
  /-- The digits as one number. -/
  digits : Nat
  /-- The power of ten that the last digit counts. -/
  exponent : Int
deriving DecidableEq, Repr

namespace Double

/-! ## The interval of a double -/

/-- The value in quarter units. -/
def quarters (d : Double) : Nat := 4 * d.units

/-- The upper end of the interval in quarter units. -/
def upperEnd (d : Double) : Nat := d.quarters + 2 * Nat.pow 2 d.scale

/-- The lower end of the interval in quarter units.  Below a power of two the steps are half as
long. -/
def lowerEnd (d : Double) : Nat :=
  d.quarters - (if d.mantissa = Nat.pow 2 52 ∧ 0 < d.scale then 1 else 2) * Nat.pow 2 d.scale

/-- A number of quarter units, brought to the denominator of the grid `10 ^ e`. -/
def overGrid (quarters : Nat) (e : Int) : Nat := quarters * Nat.pow 10 (-e).toNat

/-- The point `c * 10 ^ e` in quarter units, brought to the denominator of its grid. -/
def gridPoint (c : Nat) (e : Int) : Nat := c * Nat.pow 10 e.toNat * (4 * unitsPerOne)

/-- The point `c * 10 ^ e` lies in the interval of the magnitude. -/
def covers (d : Double) (c : Nat) (e : Int) : Bool :=
  let p := gridPoint c e
  let low := overGrid d.lowerEnd e
  let high := overGrid d.upperEnd e
  if d.mantissa % 2 = 0 then low ≤ p && p ≤ high else low < p && p < high

/-! ## The search -/

/-- The point of the grid `10 ^ e` at or next below the magnitude. -/
def floorOnGrid (d : Double) (e : Int) : Nat := overGrid d.quarters e / gridPoint 1 e

/-- The point of the grid `10 ^ e` that lies in the interval and nearest to the magnitude.  Of two
points at the same distance it is the even one. -/
def onGrid? (d : Double) (e : Int) : Option Nat :=
  let c := d.floorOnGrid e
  match d.covers c e, d.covers (c + 1) e with
  | true, false => some c
  | false, true => some (c + 1)
  | false, false => none
  | true, true =>
    let value := overGrid d.quarters e
    let down := value - gridPoint c e
    let up := gridPoint (c + 1) e - value
    if down < up then some c
    else if up < down then some (c + 1)
    else if c % 2 = 0 then some c else some (c + 1)

/-- The first hit on the grids `10 ^ e`, `10 ^ (e - 1)`, … of the given number. -/
def searchGrids (d : Double) : Nat → Int → Decimal
  | 0, e => ⟨d.floorOnGrid e, e⟩
  | n + 1, e =>
    match d.onGrid? e with
    | some c => ⟨c, e⟩
    | none => d.searchGrids n (e - 1)

/-- The exponent of a grid that is coarser than the magnitude.  The factor is a little above the
decimal logarithm of two. -/
def coarseGrid (d : Double) : Int := (((Nat.log2 d.units : Int) - 1074) * 1233) / 4096 + 2

/-- The shortest digits of the magnitude.  Seventeen digits tell any two doubles apart, and the
search starts at most a few grids above the first digit. -/
def shortest (d : Double) : Decimal :=
  if d.isZero then ⟨0, 0⟩ else d.searchGrids 24 d.coarseGrid

example : (ofRatio false 1 10).map shortest = some ⟨1, -1⟩ := by decide +kernel
example : (ofRatio false 1 3).map shortest = some ⟨3333333333333333, -16⟩ := by decide +kernel
example : (ofRank? false 1).map shortest = some ⟨5, -324⟩ := by decide +kernel
example : (ofRank? false (limit - 1)).map shortest = some ⟨17976931348623157, 292⟩ := by
  decide +kernel
example : (ofNat? (10 ^ 23)).map shortest = some ⟨1, 23⟩ := by decide +kernel

end Double

end BodyCheck
