/-!
# Numbers of the machine

Functions that are known to any accuracy, but not exactly, are computed in the machine.  Most of
them are quotients of polynomials on a few intervals.  The intervals are told apart by the upper
half of the bits that stand for a number, whose order is that of the magnitudes.
-/

namespace BodyCheck

namespace Machine

/-- The upper half of the bits of a number without the sign. -/
def upperBits (x : Float) : Nat := x.toBits.toNat / Nat.pow 2 32 % Nat.pow 2 31

/-- The sign of a number is minus. -/
def isMinus (x : Float) : Bool := Nat.pow 2 63 ≤ x.toBits.toNat

/-- A number without the lower half of its bits. -/
def withoutLowerBits (x : Float) : Float :=
  Float.ofBits (UInt64.ofNat (x.toBits.toNat / Nat.pow 2 32 * Nat.pow 2 32))

/-- The value of a polynomial.  Its coefficients begin with the constant one. -/
def polynomial : List Float → Float → Float
  | [], _ => 0.0
  | [c], _ => c
  | c :: cs, x => polynomial cs x * x + c

/-- The least upper half of the bits of what is infinite or not a number. -/
def endless : Nat := 0x7ff00000

/-- The ratio of the circumference of a circle to its diameter. -/
def pi : Float := 3.14159265358979323846

/-- What is not a number. -/
def noNumber : Float := 0.0 / 0.0

/-- An infinity. -/
def infinity : Float := 1.0 / 0.0

/-- The sine of so many half turns.  It is taken next to a number of quarter turns. -/
def sineOfHalfTurns (x : Float) : Float :=
  let x := 2.0 * (x * 0.5 - Float.floor (x * 0.5))
  let quarters := ((x * 4.0).toUInt64.toNat + 1) / 2
  let y := (x - Float.ofNat quarters * 0.5) * pi
  match quarters with
  | 1 => Float.cos y
  | 2 => Float.sin (-y)
  | 3 => -Float.cos y
  | _ => Float.sin y

end Machine

end BodyCheck
