import CatalogReport.Decimal.Binary

/-!
# The fewest decimal digits that identify a float

A decimal identifies a float when it lies in the interval of numbers that round to it. `shortest`
goes through the decimal grids from the coarsest, one digit, to the finest, seventeen; on each it
tries the two neighbours of the exact value, and the first grid with a hit wins. Of two hits the
nearer is taken.
-/

namespace CatalogReport.Decimal

/-- The decimal `digits * 10 ^ exponent`. -/
structure Digits where
  digits : Nat
  exponent : Int
  deriving DecidableEq, Repr

namespace Digits

/-- The decimal digits, leading first. -/
def toList (d : Digits) : List Char :=
  Nat.toDigits 10 d.digits

/-- How many digits stand before the point in positional form; not positive when the value is below
a tenth. -/
def point (d : Digits) : Int :=
  d.toList.length + d.exponent

/-- Moves trailing zeros into the exponent. -/
def trimZeros (digits : Nat) (exponent : Int) : Nat → Digits
  | 0 => ⟨digits, exponent⟩
  | fuel + 1 =>
    if digits % 10 == 0 && digits != 0 then trimZeros (digits / 10) (exponent + 1) fuel
    else ⟨digits, exponent⟩

end Digits

/-- Which of two equally near decimals is taken. -/
inductive Tie where
  | up
  | toEven
  deriving DecidableEq, Repr

/-- A positive number as a quotient, with the ends of the interval of numbers that round to it over
the same denominator. -/
structure Interval where
  low : Nat
  value : Nat
  high : Nat
  denominator : Nat
  /-- Whether the ends round to the value, too. -/
  closed : Bool

namespace Interval

/-- The interval of `mantissa * 2 ^ exponent`: half the distance to each neighbour. -/
def ofBinary (mantissa : Nat) (exponent : Int) : Interval :=
  let below := if mantissa == Binary.leadingBit && exponent > Binary.leastExponent then 1 else 2
  let scale := 1 <<< (exponent - 2).toNat
  { low := (4 * mantissa - below) * scale
    value := 4 * mantissa * scale
    high := (4 * mantissa + 2) * scale
    denominator := 1 <<< (2 - exponent).toNat
    closed := mantissa % 2 == 0 }

/-- The exponent of the leading decimal digit of the value. -/
def leading (i : Interval) : Int :=
  if i.denominator ≤ i.value then
    ((Nat.toDigits 10 (i.value / i.denominator)).length : Int) - 1
  else
    -((Nat.toDigits 10 ((i.denominator - 1) / i.value)).length : Int)

/-- The interval in units of `10 ^ exponent`. -/
def rescale (i : Interval) (exponent : Int) : Interval :=
  let up := Nat.pow 10 (-exponent).toNat
  let down := Nat.pow 10 exponent.toNat
  { i with
    low := i.low * up
    value := i.value * up
    high := i.high * up
    denominator := i.denominator * down }

/-- Whether the whole number `n` lies in the interval. -/
def holds (i : Interval) (n : Nat) : Bool :=
  let scaled := n * i.denominator
  if i.closed then i.low ≤ scaled && scaled ≤ i.high else i.low < scaled && scaled < i.high

/-- The whole number in the interval that is nearest to the value, if one is there. -/
def nearest? (tie : Tie) (i : Interval) : Option Nat :=
  let below := i.value / i.denominator
  let above := below + 1
  match i.holds below, i.holds above with
  | false, false => none
  | true, false => some below
  | false, true => some above
  | true, true =>
    let rest := 2 * (i.value % i.denominator)
    if rest < i.denominator then some below
    else if i.denominator < rest then some above
    else match tie with
      | .up => some above
      | .toEven => if below % 2 == 0 then some below else some above

end Interval

/-- The hit on the first grid that has one, from the grid of `10 ^ exponent` on. -/
def searchGrid (tie : Tie) (i : Interval) (exponent : Int) : Nat → Digits
  | 0 => ⟨(i.rescale exponent).value / (i.rescale exponent).denominator, exponent⟩
  | fuel + 1 =>
    match (i.rescale exponent).nearest? tie with
    | some digits => Digits.trimZeros digits exponent 17
    | none => searchGrid tie i (exponent - 1) fuel

/-- The shortest decimal that identifies the positive number `mantissa * 2 ^ exponent`. -/
def shortest (tie : Tie) (mantissa : Nat) (exponent : Int) : Digits :=
  let i := Interval.ofBinary mantissa exponent
  searchGrid tie i i.leading 17

end CatalogReport.Decimal
