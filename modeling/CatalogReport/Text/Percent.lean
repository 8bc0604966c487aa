import CatalogReport.Text.Blank
import CatalogReport.Text.Utf8

/-!
# Percent coding

A percent sign and two hexadecimal digits stand for a byte; a percent sign without them stands for
itself. A form writes pairs of names and values in this way, with a plus sign for a space.
-/

namespace CatalogReport.Text.Percent

/-- The value of a hexadecimal digit. -/
def hexValue? (b : UInt8) : Option UInt8 :=
  if 0x30 ≤ b && b ≤ 0x39 then some (b - 0x30)
  else if 0x41 ≤ b && b ≤ 0x46 then some (b - 0x37)
  else if 0x61 ≤ b && b ≤ 0x66 then some (b - 0x57)
  else none

def decodeBytes : List UInt8 → List UInt8
  | 0x25 :: high :: low :: rest =>
    match hexValue? high, hexValue? low with
    | some h, some l => (h * 16 + l) :: decodeBytes rest
    | _, _ => 0x25 :: decodeBytes (high :: low :: rest)
  | b :: rest => b :: decodeBytes rest
  | [] => []

/-- The text that was coded, if it is one. -/
def decode? (cs : List Char) : Option String :=
  String.fromUTF8? ⟨(decodeBytes (String.ofList cs).toUTF8.toList).toArray⟩

/-- The text that was coded in a form. -/
def decodeForm (cs : List Char) : String :=
  let spaced := cs.map fun c => if c = '+' then ' ' else c
  Utf8.decode (decodeBytes (String.ofList spaced).toUTF8.toList)

/-- The pairs of a form. -/
def formPairs (cs : List Char) : List (String × String) :=
  ((pieces (· == '&') cs).filter fun piece => !piece.isEmpty).map fun piece =>
    (decodeForm (piece.takeWhile (· != '=')), decodeForm ((piece.dropWhile (· != '=')).drop 1))

end CatalogReport.Text.Percent
