import BodyCheck.Machine.Basic

/-!
# The exponential function next to zero

`expLessOne x` is `exp x - 1` and `logOfOneMore x` is `log (1 + x)`, both without loss of digits
where `x` is small.  The argument is brought close to zero by a power of two, which the result takes
back.
-/

namespace BodyCheck

namespace Machine

namespace Exponential

/-- The upper digits of the logarithm of two. -/
def upperLogOfTwo : Float := 6.93147180369123816490e-1

/-- The lower digits of the logarithm of two. -/
def lowerLogOfTwo : Float := 1.90821492927058770002e-10

/-- One over the logarithm of two. -/
def overLogOfTwo : Float := 1.44269504088896338700

/-- The coefficients for the exponential function. -/
def expSeries : List Float :=
  [1.0, -3.33333333333331316428e-2, 1.58730158725481460165e-3, -7.93650757867487942473e-5,
    4.00821782732936239552e-6, -2.01099218183624371326e-7]

/-- Every second coefficient for the logarithm. -/
def logSeries : List Float :=
  [6.666666666666735130e-1, 2.857142874366239149e-1, 1.818357216161805012e-1,
    1.479819860511658591e-1]

/-- The other coefficients for the logarithm. -/
def logSeries' : List Float :=
  [3.999999999940941908e-1, 2.222219843214978396e-1, 1.531383769920937332e-1]

/-- The power of two with an exponent that is not far from zero. -/
def twoTo (k : Int) : Float := Float.ofBits (UInt64.ofNat ((1023 + k).toNat * Nat.pow 2 52))

/-- The value of `exp (x + c) * 2 ^ k - 1` for a small `x`, and a much smaller `c`. -/
def scaledExp (k : Int) (x c : Float) : Float :=
  let half := 0.5 * x
  let square := x * half
  let r := polynomial expSeries square
  let t := 3.0 - r * half
  let e := square * ((r - t) / (6.0 - x * t))
  if k == 0 then x - (x * e - square)
  else
    let e := x * (e - c) - c - square
    if k == -1 then 0.5 * (x - e) - 0.5
    else if k == 1 then
      if x < -0.25 then -2.0 * (e - (x + 0.5)) else 1.0 + 2.0 * (x - e)
    else if k < 0 || 56 < k then
      let y := x - e + 1.0
      (if k == 1024 then y * 2.0 * twoTo 1023 else y * twoTo k) - 1.0
    else if k < 20 then (x - e + (1.0 - twoTo (-k))) * twoTo k
    else (x - (e + twoTo (-k)) + 1.0) * twoTo k

end Exponential

open Exponential

/-- The value of `exp x - 1`. -/
def expLessOne (x : Float) : Float :=
  let bits := upperBits x
  let reduced (k : Int) (upper lower : Float) : Float :=
    let y := upper - lower
    scaledExp k y (upper - y - lower)
  if x.isNaN then x
  else if 0x4043687a ≤ bits && isMinus x then -1.0
  else if 7.09782712893383973096e2 < x then infinity
  else if bits < 0x3c900000 then x
  else if bits ≤ 0x3fd62e42 then scaledExp 0 x 0.0
  else if bits < 0x3ff0a2b2 then
    if isMinus x then reduced (-1) (x + upperLogOfTwo) (-lowerLogOfTwo)
    else reduced 1 (x - upperLogOfTwo) lowerLogOfTwo
  else
    let turns := (overLogOfTwo * x.abs + 0.5).toUInt64.toNat
    let k : Int := if isMinus x then -turns else turns
    let t := if isMinus x then -Float.ofNat turns else Float.ofNat turns
    reduced k (x - t * upperLogOfTwo) (t * lowerLogOfTwo)

/-- The value of `log (1 + x)`. -/
def logOfOneMore (x : Float) : Float :=
  let bits := upperBits x
  /- The value of `log (1 + f) + k * log 2 + c` for a small `f` and a much smaller `c`. -/
  let value (k : Int) (f c : Float) : Float :=
    let square := 0.5 * f * f
    let s := f / (2.0 + f)
    let z := s * s
    let w := z * z
    let r := z * polynomial logSeries w + w * polynomial logSeries' w
    let k := if k < 0 then -Float.ofNat k.natAbs else Float.ofNat k.natAbs
    s * (square + r) + (k * lowerLogOfTwo + c) - square + f + k * upperLogOfTwo
  if x.isNaN || x == infinity then x
  else if x == -1.0 then -infinity
  else if x < -1.0 then noNumber
  else if bits < 0x3ca00000 then x
  else if bits ≤ 0x3fd2bec4 && isMinus x || bits < 0x3fda827a && !isMinus x then value 0 x 0.0
  else
    let y := 1.0 + x
    let upper := upperBits y + (0x3ff00000 - 0x3fe6a09e)
    let k : Int := (upper / Nat.pow 2 20 : Nat) - (1023 : Int)
    let c := if k < 54 then (if 2 ≤ k then 1.0 - (y - x) else x - (y - 1.0)) / y else 0.0
    let lower := y.toBits.toNat % Nat.pow 2 32
    let reduced := (upper % Nat.pow 2 20 + 0x3fe6a09e) * Nat.pow 2 32 + lower
    value k (Float.ofBits (UInt64.ofNat reduced) - 1.0) c

end Machine

end BodyCheck
