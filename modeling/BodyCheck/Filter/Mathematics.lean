import BodyCheck.Machine.Bessel
import BodyCheck.Machine.ErrorFunction
import BodyCheck.Machine.Exponential
import BodyCheck.Machine.Gamma
import BodyCheck.Number.Functions

/-!
# Mathematical functions

Functions that are only known up to rounding.  They are computed in the machine, on the 64 bits that
stand for a double: the sign, and the rank of the magnitude.
-/

namespace BodyCheck

namespace Extended

/-- The weight of the sign in the 64 bits of a double. -/
def signWeight : Nat := Nat.pow 2 63

/-- The 64 bits that stand for a value. -/
def bits : Extended → Nat
  | .finite d => (if d.negative then signWeight else 0) + d.rank
  | .infinite negative => (if negative then signWeight else 0) + Double.limit
  | .nan => Double.limit + Nat.pow 2 51

/-- The value that 64 bits stand for. -/
def ofBits (n : Nat) : Extended :=
  let negative := decide (signWeight ≤ n)
  let rank := n % signWeight
  match Double.ofRank? negative rank with
  | some d => .finite d
  | none => if rank = Double.limit then .infinite negative else .nan

/-- A function of the machine on a value. -/
def machine (f : Float → Float) (x : Extended) : Extended :=
  ofBits (f (Float.ofBits (UInt64.ofNat x.bits))).toBits.toNat

/-- A function of the machine on two values. -/
def machine2 (f : Float → Float → Float) (x y : Extended) : Extended :=
  ofBits (f (Float.ofBits (UInt64.ofNat x.bits)) (Float.ofBits (UInt64.ofNat y.bits))).toBits.toNat

/-- Ten to the power of a value. -/
def tenTo (x : Extended) : Extended := machine2 Float.pow (ofInt 10) x

/-- The functions of one number, by name. -/
def functions : List (String × (Extended → Extended)) :=
  [("sqrt", sqrt), ("fabs", abs), ("trunc", truncated), ("rint", nearestEven),
    ("nearbyint", nearestAway), ("logb", exponentValue), ("significand", significand),
    ("expm1", machine Machine.expLessOne), ("log1p", machine Machine.logOfOneMore),
    ("pow10", tenTo),
    ("sin", machine Float.sin), ("cos", machine Float.cos), ("tan", machine Float.tan),
    ("asin", machine Float.asin), ("acos", machine Float.acos), ("atan", machine Float.atan),
    ("sinh", machine Float.sinh), ("cosh", machine Float.cosh), ("tanh", machine Float.tanh),
    ("asinh", machine Float.asinh), ("acosh", machine Float.acosh), ("atanh", machine Float.atanh),
    ("exp", machine Float.exp), ("exp2", machine Float.exp2),
    ("exp10", tenTo),
    ("log", machine Float.log), ("log2", machine Float.log2), ("log10", machine Float.log10),
    ("cbrt", machine Float.cbrt), ("erf", machine Machine.erf), ("erfc", machine Machine.erfc),
    ("gamma", machine Machine.logGamma), ("lgamma", machine Machine.logGamma),
    ("tgamma", machine Machine.gamma), ("j0", machine (Machine.besselJ 0)),
    ("j1", machine (Machine.besselJ 1)), ("y0", machine (Machine.besselY 0)),
    ("y1", machine (Machine.besselY 1))]

/-- The functions of two numbers, by name. -/
def functions2 : List (String × (Extended → Extended → Extended)) :=
  [("pow", machine2 Float.pow), ("atan2", machine2 Float.atan2), ("fmod", rem), ("fmin", least),
    ("fmax", greatest), ("fdim", excess), ("copysign", withSignOf), ("hypot", diagonal),
    ("nextafter", neighbour), ("nexttoward", neighbour), ("drem", nearestRem),
    ("scalb", fun x y => x.mul (machine2 Float.pow (ofInt 2) y))]

example : ofBits (ofRatio true 1 10).bits = ofRatio true 1 10 := by decide +kernel

end Extended

end BodyCheck
