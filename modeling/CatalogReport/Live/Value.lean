import CatalogReport.Json.Codec
import CatalogReport.Report.Cell
import CatalogReport.Text.Blank
import CatalogReport.Text.Utf8

/-!
# Values of a database

What a database holds in the fields of a row, how values are ordered, and how fields are read. A
field of any type can be read as a text, a number or a flag; a field that is not there reads as
zero.
-/

namespace CatalogReport

inductive Value where
  | null
  | int (n : Int64)
  | real (x : Float)
  | text (s : String)
  | blob (bytes : List UInt8)
  deriving DecidableEq, Repr

namespace Value

/-! ## Order -/

/-- The finite floats are whole multiples of `2 ^ -scaleBits`. -/
def scaleBits : Nat := 1074

/-- A bound that the multiples of all finite floats stay below. -/
def beyondFinite : Int := (1 <<< 2200 : Nat)

/-- A number as a multiple of `2 ^ -scaleBits`. -/
def scaled (x : Float) : Int :=
  match Decimal.Binary.ofFloat x with
  | .nan => 0
  | .infinite negative => if negative then -beyondFinite else beyondFinite
  | .finite negative mantissa exponent =>
    let magnitude : Int := (mantissa <<< (exponent + scaleBits).toNat : Nat)
    if negative then -magnitude else magnitude

/-- Whether bytes come before or with others. -/
def bytesLe : List UInt8 → List UInt8 → Bool
  | [], _ => true
  | _ :: _, [] => false
  | a :: as, b :: bs => if a == b then bytesLe as bs else a < b

/-- The place of a value's class in the order. -/
def rank : Value → Nat
  | .null => 0
  | .int _ | .real _ => 1
  | .text _ => 2
  | .blob _ => 3

/-- A number as a multiple of `2 ^ -scaleBits`; zero for what is none. -/
def multiple : Value → Int
  | .int n => n.toInt * (1 <<< scaleBits : Nat)
  | .real x => scaled x
  | _ => 0

/-- Nulls come first, then numbers, then texts, then blobs. -/
def le (a b : Value) : Bool :=
  match a, b with
  | .text s, .text t => s ≤ t
  | .blob s, .blob t => bytesLe s t
  | a, b => if a.rank == b.rank then a.multiple ≤ b.multiple else a.rank < b.rank

end Value

/-! ## Fields -/

/-- A field of a row, if the row has it. -/
abbrev Value? := Option Value

namespace Value?

/-- The field as a whole number; a fraction is cut off and what is out of range is clamped. -/
def int : Value? → Int64
  | some (.int n) => n
  | some (.real x) => x.toInt64
  | _ => 0

/-- The field as a number of 32 bits; what is out of range is the greatest of them. -/
def int32 (v : Value?) : Int32 :=
  let n := (int v).toInt
  if Int32.minValue.toInt ≤ n ∧ n ≤ Int32.maxValue.toInt then Int32.ofInt n else Int32.maxValue

def float : Value? → Float
  | some (.real x) => x
  | v => (int v).toFloat

def flag (v : Value?) : Bool :=
  int v != 0

def text : Value? → String
  | some .null => ""
  | some (.text s) => s
  | some (.blob bytes) => Text.Utf8.decode bytes
  | v => Cell.wholeText (int v).toInt

/-- The lines of the field that are not empty. -/
def lines (v : Value?) : List String :=
  ((Text.pieces (· == '\n') (text v).toList).filter fun line => !line.isEmpty).map String.ofList

/-- The items of the field, which is a JSON list; none of a field that is not. -/
def items {α : Type} (item : Codec α) (v : Value?) : List α :=
  match (Codec.list item).parse (text v) with
  | .ok items => items
  | .error _ => []

end Value?

end CatalogReport
