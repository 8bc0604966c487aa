import CatalogReport.Decimal.Shortest

/-!
# Written forms of floats

A `Layout` says how shortest digits are set: where positional form ends, whether a whole number
keeps a point, what stands for the numbers without digits. `cellForm` is the form in tables,
`jsonForm` the form in JSON texts. `fixed` writes a number with a given number of places, a half
going to the even neighbour.
-/

namespace CatalogReport.Decimal

/-- The choices of a written form. -/
structure Layout where
  tie : Tie
  /-- Whether a number with so many digits before the point is written positionally. -/
  positional : Int → Bool
  /-- Whether a whole number in positional form ends in a point and a zero. -/
  pointZero : Bool
  nan : String
  infinity : String

/-- Tables write every number positionally and whole numbers without a point. -/
def cellForm : Layout where
  tie := .up
  positional := fun _ => true
  pointZero := false
  nan := "NaN"
  infinity := "inf"

/-- JSON texts write numbers from `1e-5` up to `1e16` positionally and keep a digit after the point;
what is no number is null. -/
def jsonForm : Layout where
  tie := .toEven
  positional := fun point => -5 < point && point ≤ 16
  pointZero := true
  nan := "null"
  infinity := "null"

def zeros (n : Nat) : List Char :=
  List.replicate n '0'

/-- Digits in positional form. -/
def positionalOf (pointZero : Bool) (digits : List Char) (point : Int) : List Char :=
  if point ≤ 0 then ['0', '.'] ++ zeros (-point).toNat ++ digits
  else if digits.length ≤ point.toNat then
    digits ++ zeros (point.toNat - digits.length) ++ (if pointZero then ['.', '0'] else [])
  else digits.take point.toNat ++ ['.'] ++ digits.drop point.toNat

/-- Digits with one of them before the point, and the signed exponent. -/
def scientificOf (digits : List Char) (point : Int) : List Char :=
  let exponent := point - 1
  digits.take 1 ++ (if digits.length ≤ 1 then [] else '.' :: digits.drop 1) ++ ['e'] ++
    [if exponent < 0 then '-' else '+'] ++ Nat.toDigits 10 exponent.natAbs

namespace Layout

/-- The form of a positive number or zero. -/
def unsigned (layout : Layout) (mantissa : Nat) (exponent : Int) : List Char :=
  if mantissa == 0 then if layout.pointZero then ['0', '.', '0'] else ['0']
  else
    let d := shortest layout.tie mantissa exponent
    if layout.positional d.point then positionalOf layout.pointZero d.toList d.point
    else scientificOf d.toList d.point

def sign (negative : Bool) : List Char :=
  if negative then ['-'] else []

/-- The written form of a float. -/
def write (layout : Layout) (x : Float) : List Char :=
  match Binary.ofFloat x with
  | .nan => layout.nan.toList
  | .infinite negative =>
    if layout.infinity == layout.nan then layout.nan.toList
    else sign negative ++ layout.infinity.toList
  | .finite negative mantissa exponent => sign negative ++ layout.unsigned mantissa exponent

end Layout

/-- The nearest whole number to a quotient; a half goes to the even neighbour. -/
def roundHalfEven (value denominator : Nat) : Nat :=
  let below := value / denominator
  let rest := 2 * (value % denominator)
  if rest < denominator || (rest == denominator && below % 2 == 0) then below else below + 1

/-- A number of hundredths, thousandths and so on, written with that many places. -/
def placedOf (places : Nat) (scaled : Nat) : List Char :=
  let digits := Nat.toDigits 10 scaled
  let padded := zeros (places + 1 - digits.length) ++ digits
  padded.take (padded.length - places) ++ ['.'] ++ padded.drop (padded.length - places)

/-- A float with a fixed number of places. -/
def fixed (places : Nat) (x : Float) : String :=
  String.ofList <|
    match Binary.ofFloat x with
    | .nan => cellForm.nan.toList
    | .infinite negative => Layout.sign negative ++ cellForm.infinity.toList
    | .finite negative mantissa exponent =>
      let scaled :=
        roundHalfEven ((mantissa <<< exponent.toNat) * Nat.pow 10 places) (1 <<< (-exponent).toNat)
      Layout.sign negative ++ placedOf places scaled

/-- The text of a float in a table cell. -/
def cellText (x : Float) : String :=
  String.ofList (cellForm.write x)

end CatalogReport.Decimal
