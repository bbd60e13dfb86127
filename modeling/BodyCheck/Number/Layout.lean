import BodyCheck.Number.Digits
import BodyCheck.Number.Shortest

/-!
# Doubles as text

A double is written with its shortest digits.  Between two bounds on the exponent of the leading
digit it is written with a point and at least one digit on each side of it, outside of them with
one leading digit and an exponent.  A `NumberLayout` fixes the bounds and the sign of a positive
exponent.
-/

namespace BodyCheck

/-- Where plain notation ends, and how an exponent is written. -/
structure NumberLayout where
  /-- The least exponent of the leading digit that is written plainly. -/
  leastPlain : Int
  /-- The greatest exponent of the leading digit that is written plainly. -/
  greatestPlain : Int
  /-- A positive exponent has a plus sign. -/
  signedExponent : Bool
deriving DecidableEq, Repr

/-- An exponent as text. -/
def NumberLayout.exponentText (layout : NumberLayout) (e : Int) : List Char :=
  (if e < 0 then ['-'] else if layout.signedExponent then ['+'] else []) ++ decimalDigits e.natAbs

/-- A decimal in plain notation. -/
def Decimal.plain (d : Decimal) : List Char :=
  let ds := decimalDigits d.digits
  if 0 ≤ d.exponent then ds ++ List.replicate d.exponent.toNat '0' ++ ['.', '0']
  else
    let places := (-d.exponent).toNat
    if places < ds.length then ds.take (ds.length - places) ++ '.' :: ds.drop (ds.length - places)
    else '0' :: '.' :: (List.replicate (places - ds.length) '0' ++ ds)

/-- A decimal with one leading digit and an exponent. -/
def Decimal.scientific (layout : NumberLayout) (d : Decimal) : List Char :=
  let ds := decimalDigits d.digits
  let leading := d.exponent + ds.length - 1
  ds.take 1 ++ (if ds.length ≤ 1 then [] else '.' :: ds.drop 1)
    ++ 'e' :: layout.exponentText leading

/-- A decimal as text. -/
def Decimal.render (layout : NumberLayout) (d : Decimal) : List Char :=
  let leading := d.exponent + (decimalDigits d.digits).length - 1
  if d.digits = 0 then ['0', '.', '0']
  else if layout.leastPlain ≤ leading ∧ leading ≤ layout.greatestPlain then d.plain
  else d.scientific layout

/-- A double as text. -/
def Double.render (layout : NumberLayout) (d : Double) : List Char :=
  (if d.negative then ['-'] else []) ++ d.shortest.render layout

/-- The layout of numbers in JSON text. -/
def NumberLayout.json : NumberLayout := ⟨-5, 15, true⟩

example : Decimal.render .json ⟨1, -5⟩ = "0.00001".toList := by decide
example : Decimal.render .json ⟨125, -2⟩ = "1.25".toList := by decide
example : Decimal.render .json ⟨3, 2⟩ = "300.0".toList := by decide
example : Decimal.render .json ⟨15, 299⟩ = "1.5e+300".toList := by decide
example : Decimal.render .json ⟨1, -7⟩ = "1e-7".toList := by decide

end BodyCheck
