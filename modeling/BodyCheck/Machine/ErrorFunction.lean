import BodyCheck.Machine.Basic

/-!
# The error function

`erf x` is the part of the normal distribution that lies within `x` times the square root of two of
its middle, and `erfc x` what is left of it.
-/

namespace BodyCheck

namespace Machine

namespace ErrorFunction

/-! ## Coefficients -/

/-- A number near the value at one. -/
def nearOne : Float := 8.45062911510467529297e-1

/-- Eight times the slope at zero, less eight. -/
def slope : Float := 1.02703333676410069053

/-- Numerator up to 0.84. -/
def lowOver : List Float :=
  [1.28379167095512558561e-1, -3.25042107247001499370e-1, -2.84817495755985104766e-2,
    -5.77027029648944159157e-3, -2.37630166566501626084e-5]

/-- Denominator up to 0.84. -/
def lowUnder : List Float :=
  [1.0, 3.97917223959155352819e-1, 6.50222499887672944485e-2, 5.08130628187576562776e-3,
    1.32494738004321644526e-4, -3.96022827877536812320e-6]

/-- Numerator up to 1.25. -/
def middleOver : List Float :=
  [-2.36211856075265944077e-3, 4.14856118683748331666e-1, -3.72207876035701323847e-1,
    3.18346619901161753674e-1, -1.10894694282396677476e-1, 3.54783043256182359371e-2,
    -2.16637559486879084300e-3]

/-- Denominator up to 1.25. -/
def middleUnder : List Float :=
  [1.0, 1.06420880400844228286e-1, 5.40397917702171048937e-1, 7.18286544141962662868e-2,
    1.26171219808761642112e-1, 1.36370839120290507362e-2, 1.19844998467991074170e-2]

/-- Numerator up to 2.86. -/
def highOver : List Float :=
  [-9.86494403484714822705e-3, -6.93858572707181764372e-1, -1.05586262253232909814e1,
    -6.23753324503260060396e1, -1.62396669462573470355e2, -1.84605092906711035994e2,
    -8.12874355063065934246e1, -9.81432934416914548592]

/-- Denominator up to 2.86. -/
def highUnder : List Float :=
  [1.0, 1.96512716674392571292e1, 1.37657754143519042600e2, 4.34565877475229228821e2,
    6.45387271733267880336e2, 4.29008140027567833386e2, 1.08635005541779435134e2,
    6.57024977031928170135, -6.04244152148580987438e-2]

/-- Numerator beyond. -/
def farOver : List Float :=
  [-9.86494292470009928597e-3, -7.99283237680523006574e-1, -1.77579549177547519889e1,
    -1.60636384855821916062e2, -6.37566443368389627722e2, -1.02509513161107724954e3,
    -4.83519191608651397019e2]

/-- Denominator beyond. -/
def farUnder : List Float :=
  [1.0, 3.03380607434824582924e1, 3.25792512996573918826e2, 1.53672958608443695994e3,
    3.19985821950859553908e3, 2.55305040643316442583e3, 4.74528541206955367215e2,
    -2.24409524465858183362e1]

/-! ## The functions -/

/-- What is left beyond a magnitude of at least 0.84. -/
def rest (x : Float) : Float :=
  let x := x.abs
  if upperBits x < 0x3ff40000 then
    let s := x - 1.0
    1.0 - nearOne - polynomial middleOver s / polynomial middleUnder s
  else
    let s := 1.0 / (x * x)
    let q :=
      if upperBits x < 0x4006db6d then polynomial highOver s / polynomial highUnder s
      else polynomial farOver s / polynomial farUnder s
    let z := withoutLowerBits x
    Float.exp (-z * z - 0.5625) * Float.exp ((z - x) * (z + x) + q) / x

/-- The quotient for a small number. -/
def lowQuotient (x : Float) : Float :=
  let z := x * x
  polynomial lowOver z / polynomial lowUnder z

end ErrorFunction

open ErrorFunction

/-- The error function. -/
def erf (x : Float) : Float :=
  let bits := upperBits x
  if endless ≤ bits then (if isMinus x then -1.0 else 1.0) + 1.0 / x
  else if bits < 0x3e300000 then 0.125 * (8.0 * x + slope * x)
  else if bits < 0x3feb0000 then x + x * lowQuotient x
  else
    let y := if bits < 0x40180000 then 1.0 - rest x else 1.0
    if isMinus x then -y else y

/-- What the error function leaves of one. -/
def erfc (x : Float) : Float :=
  let bits := upperBits x
  if endless ≤ bits then (if isMinus x then 2.0 else 0.0) + 1.0 / x
  else if bits < 0x3c700000 then 1.0 - x
  else if bits < 0x3feb0000 then
    let y := lowQuotient x
    if isMinus x || bits < 0x3fd00000 then 1.0 - (x + x * y) else 0.5 - (x - 0.5 + x * y)
  else if bits < 0x403c0000 then if isMinus x then 2.0 - rest x else rest x
  else if isMinus x then 2.0 else 0.0

end Machine

end BodyCheck
