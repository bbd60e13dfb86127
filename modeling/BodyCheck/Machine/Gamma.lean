import BodyCheck.Machine.Basic

/-!
# The gamma function

`gamma` takes the factorial of a whole number at the next one, and `logGamma` is the logarithm of
its magnitude.
-/

namespace BodyCheck

namespace Machine

namespace Gamma

/-! ## Coefficients of the logarithm -/

/-- Every second coefficient next to two. -/
def nextToTwo : List Float :=
  [7.72156649015328655494e-2, 6.73523010531292681824e-2, 7.38555086081402883957e-3,
    1.19270763183362067845e-3, 2.20862790713908385557e-4, 2.52144565451257326939e-5]

/-- The other coefficients next to two. -/
def nextToTwo' : List Float :=
  [3.22467033424113591611e-1, 2.05808084325167332806e-2, 2.89051383673415629091e-3,
    5.10069792153511336608e-4, 1.08011567247583939954e-4, 4.48640949618915160150e-5]

/-- The place of the least value. -/
def lowest : Float := 1.46163214496836224576

/-- The least value. -/
def lowestValue : Float := -1.21486290535849611461e-1

/-- What the least value is rounded by. -/
def lowestRest : Float := -3.63867699703950536541e-18

/-- Every third coefficient next to the least value. -/
def nextToLowest : List Float :=
  [4.83836122723810047042e-1, -3.27885410759859649565e-2, 6.10053870246291332635e-3,
    -1.40346469989232843813e-3, 3.15632070903625950361e-4]

/-- The coefficients behind those. -/
def nextToLowest' : List Float :=
  [-1.47587722994593911752e-1, 1.79706750811820387126e-2, -3.68452016781138256760e-3,
    8.81081882437654011382e-4, -3.12754168375120860518e-4]

/-- The coefficients behind those. -/
def nextToLowest'' : List Float :=
  [6.46249402391333854778e-2, -1.03142241298341437450e-2, 2.25964780900612472250e-3,
    -5.38595305356740546715e-4, 3.35529192635519073543e-4]

/-- Numerator next to one. -/
def oneOver : List Float :=
  [-7.72156649015328655494e-2, 6.32827064025093366517e-1, 1.45492250137234768737,
    9.77717527963372745603e-1, 2.28963728064692451092e-1, 1.33810918536787660377e-2]

/-- Denominator next to one. -/
def oneUnder : List Float :=
  [1.0, 2.45597793713041134822, 2.12848976379893395361, 7.69285150456672783825e-1,
    1.04222645593369134254e-1, 3.21709242282423911810e-3]

/-- Numerator up to eight. -/
def eightOver : List Float :=
  [-7.72156649015328655494e-2, 2.14982415960608852501e-1, 3.25778796408930981787e-1,
    1.46350472652464452805e-1, 2.66422703033638609560e-2, 1.84028451407337715652e-3,
    3.19475326584100867617e-5]

/-- Denominator up to eight. -/
def eightUnder : List Float :=
  [1.0, 1.39200533467621045958, 7.21935547567138069525e-1, 1.71933865632803078993e-1,
    1.86459191715652901344e-2, 7.77942496381893596434e-4, 7.32668430744625636189e-6]

/-- The constant of the series beyond eight. -/
def farConstant : Float := 4.18938533204672725052e-1

/-- The other coefficients of the series beyond eight. -/
def far : List Float :=
  [8.33333333333329678849e-2, -2.77777777728775536470e-3, 7.93650558643019558500e-4,
    -5.95187557450339963135e-4, 8.36339918996282139126e-4, -1.63092934096575273989e-3]

/-! ## Coefficients of the function -/

/-- Numerator. -/
def sumTop : List Float :=
  [23531376880.410759688572007674451636754734846804940,
    42919803642.649098768957899047001988850926355848959,
    35711959237.355668049440185451547166705960488635843,
    17921034426.037209699919755754458931112671403265390,
    6039542586.3520280050642916443072979210699388420708,
    1439720407.3117216736632230727949123939715485786372,
    248874557.86205415651146038641322942321632125127801,
    31426415.585400194380614231628318205362874684987640,
    2876370.6289353724412254090516208496135991145378768,
    186056.26539522349504029498971604569928220784236328,
    8071.6720023658162106380029022722506138218516325024,
    210.82427775157934587250973392071336271166969580291,
    2.5066282746310002701649081771338373386264310793408]

/-- Denominator. -/
def sumBottom : List Float :=
  [0.0, 39916800.0, 120543840.0, 150917976.0, 105258076.0, 45995730.0, 13339535.0, 2637558.0,
    357423.0, 32670.0, 1925.0, 66.0, 1.0]

/-- The number that is added to the argument, less one half. -/
def shift : Float := 5.524680040776729583740234375

/-! ## The logarithm -/

/-- The series next to two, for the distance from it. -/
def seriesAtTwo (y : Float) : Float :=
  let z := y * y
  y * polynomial nextToTwo z + z * polynomial nextToTwo' z - 0.5 * y

/-- The series next to the least value, for the distance from its place. -/
def seriesAtLowest (y : Float) : Float :=
  let z := y * y
  let w := z * y
  lowestValue + (z * polynomial nextToLowest w
    - (lowestRest - w * (polynomial nextToLowest' w + y * polynomial nextToLowest'' w)))

/-- The series next to one, for the distance from it. -/
def seriesAtOne (y : Float) : Float :=
  -0.5 * y + y * polynomial oneOver y / polynomial oneUnder y

/-- The product of a number with two added and so on, up to the given number less one. -/
def risingProduct (y : Float) : Nat → Float
  | n + 3 => (List.range (n + 1)).reverse.foldl (fun z k => z * (y + Float.ofNat (k + 2))) 1.0
  | _ => 1.0

/-- The logarithm of the gamma function at a positive number. -/
def logOfPositive (x : Float) : Float :=
  let bits := upperBits x
  if x == 1.0 || x == 2.0 then 0.0
  else if bits ≤ 0x3feccccc then
    -Float.log x + (if 0x3fe76944 ≤ bits then seriesAtTwo (1.0 - x)
      else if 0x3fcda661 ≤ bits then seriesAtLowest (x - (lowest - 1.0))
      else seriesAtOne x)
  else if bits < 0x40000000 then
    if 0x3ffbb4c3 ≤ bits then seriesAtTwo (2.0 - x)
    else if 0x3ff3b4c4 ≤ bits then seriesAtLowest (x - lowest)
    else seriesAtOne (x - 1.0)
  else if bits < 0x40200000 then
    let whole := x.toUInt64.toNat
    let y := x - Float.ofNat whole
    let r := 0.5 * y + y * polynomial eightOver y / polynomial eightUnder y
    if 3 ≤ whole then r + Float.log (risingProduct y whole) else r
  else if bits < 0x43900000 then
    let z := 1.0 / x
    (x - 0.5) * (Float.log x - 1.0) + (farConstant + z * polynomial far (z * z))
  else x * (Float.log x - 1.0)

/-! ## The function -/

/-- The quotient of the sums, from their last or their first terms on. -/
def sumQuotient (x : Float) : Float :=
  if x < 8.0 then polynomial sumTop x / polynomial sumBottom x
  else sumTop.foldl (fun s c => s / x + c) 0.0 / sumBottom.foldl (fun s c => s / x + c) 0.0

end Gamma

open Gamma

/-- The logarithm of the magnitude of the gamma function. -/
def logGamma (x : Float) : Float :=
  let bits := upperBits x
  if endless ≤ bits then x * x
  else if bits < 0x3b900000 then -Float.log x.abs
  else if isMinus x then
    let t := (sineOfHalfTurns x.abs).abs
    if t == 0.0 then infinity
    else Float.log (pi / (t * x.abs)) - logOfPositive x.abs
  else logOfPositive x

/-- The factorial of a whole number. -/
def factorial : Nat → Nat
  | 0 => 1
  | n + 1 => (n + 1) * factorial n

/-- The gamma function. -/
def gamma (x : Float) : Float :=
  let bits := upperBits x
  if endless ≤ bits then x + infinity
  else if bits < 0x3c900000 then 1.0 / x
  else if x == Float.floor x && (isMinus x || x ≤ 23.0) then
    if isMinus x then noNumber else Float.ofNat (factorial (x.toUInt64.toNat - 1))
  else if 0x40670000 ≤ bits then
    if !isMinus x then infinity
    else if Float.floor x * 0.5 == Float.floor (x * 0.5) then 0.0 else -0.0
  else
    let a := x.abs
    let y := a + shift
    let rest := if shift < a then y - a - shift else y - shift - a
    let r := sumQuotient a * Float.exp (-y)
    let (r, rest, z) :=
      if x < 0.0 then (-pi / (sineOfHalfTurns a * a * r), -rest, 0.5 - a) else (r, rest, a - 0.5)
    let r := r + rest * (shift + 0.5) * r / y
    let z := Float.pow y (0.5 * z)
    r * z * z

end Machine

end BodyCheck
