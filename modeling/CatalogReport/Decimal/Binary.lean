/-!
# Binary floating point numbers as exact values

`Binary.ofFloat` reads a float apart: a finite one is, up to its sign, `mantissa * 2 ^ exponent`
exactly.
-/

namespace CatalogReport.Decimal

/-- What a float stands for. -/
inductive Binary where
  | nan
  | infinite (negative : Bool)
  | finite (negative : Bool) (mantissa : Nat) (exponent : Int)
  deriving DecidableEq, Repr

namespace Binary

/-- The first mantissa of a binade; a number at it has a nearer neighbour below than above. -/
def leadingBit : Nat := 0x10000000000000

/-- The exponent of the smallest numbers, which share it with the binade above them. -/
def leastExponent : Int := -1074

def ofBits (bits : Nat) : Binary :=
  let negative := bits / 0x8000000000000000 == 1
  let field := bits / leadingBit % 0x800
  let fraction := bits % leadingBit
  if field == 2047 then
    if fraction == 0 then .infinite negative else .nan
  else if field == 0 then .finite negative fraction leastExponent
  else .finite negative (leadingBit + fraction) (leastExponent + (field - 1 : Nat))

def ofFloat (x : Float) : Binary :=
  ofBits x.toBits.toNat

/-- Numbers that are neither infinite nor undefined. -/
def isFinite : Binary → Bool
  | .finite .. => true
  | _ => false

end Binary

end CatalogReport.Decimal
