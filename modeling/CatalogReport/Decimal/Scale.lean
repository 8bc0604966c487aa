/-!
# Reading a decimal as a float

A decimal is read as a significand that fits in 64 bits and a power of ten. The significand is
rounded to a float, and that float is multiplied or divided by the power, which is a float as well;
so the result can be a neighbour of the float nearest to the decimal.
-/

namespace CatalogReport.Decimal

/-- Digits of a numeral as far as they were taken, and the power of ten they are to be scaled by. -/
structure Scaled where
  significand : Nat
  exponent : Int
  deriving DecidableEq, Repr

/-- The bound on significands. -/
def significandBound : Nat := UInt64.size

namespace Scaled

/-- Takes the digits of the whole part while they fit; each later one raises the exponent. -/
def whole : Scaled → List Nat → Scaled
  | s, [] => s
  | s, d :: rest =>
    if s.significand * 10 + d < significandBound then
      whole ⟨s.significand * 10 + d, s.exponent⟩ rest
    else ⟨s.significand, s.exponent + (d :: rest).length⟩

/-- Takes the digits after the point while they fit; later ones are dropped. -/
def places : Scaled → List Nat → Scaled
  | s, [] => s
  | s, d :: rest =>
    if s.significand * 10 + d < significandBound then
      places ⟨s.significand * 10 + d, s.exponent - 1⟩ rest
    else s

end Scaled

/-- The largest power of ten that is a float. -/
def greatestPower : Nat := 308

def powerOfTen (n : Nat) : Float :=
  Float.ofScientific 1 false n

/-- Scales by `10 ^ exponent` in steps that are floats; `none` when the result is no finite
float. -/
def scaleFrom (x : Float) (exponent : Int) : Nat → Option Float
  | 0 => some 0
  | fuel + 1 =>
    if exponent.natAbs ≤ greatestPower then
      if 0 ≤ exponent then
        let scaled := x * powerOfTen exponent.natAbs
        if scaled.isInf then none else some scaled
      else some (x / powerOfTen exponent.natAbs)
    else if x == 0 then some x
    else if 0 ≤ exponent then none
    else scaleFrom (x / powerOfTen greatestPower) (exponent + greatestPower) fuel

/-- The float that a scaled significand is read as. Three steps of `10 ^ -308` take every
significand to zero. -/
def Scaled.toFloat? (s : Scaled) (negative : Bool) : Option Float :=
  (scaleFrom (UInt64.ofNat s.significand).toFloat s.exponent 4).map fun x =>
    if negative then -x else x

end CatalogReport.Decimal
