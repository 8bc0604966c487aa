/-!
# Bytes as text

Bytes are read as UTF-8. Where they are not, a replacement character stands for the longest run of
bytes that could have begun a character, or else for one byte.
-/

namespace CatalogReport.Text.Utf8

/-- A character that has begun: its bits so far, how many bytes it still takes, and the range of the
next of them. -/
structure Pending where
  bits : Nat
  owed : Nat
  least : Nat
  greatest : Nat
  deriving DecidableEq, Repr

def replacement : Char := '\uFFFD'

/-- What a byte is at the beginning of a character: characters that are complete with it, and one
that it begins. -/
def first (b : Nat) : List Char × Option Pending :=
  if b ≤ 0x7F then ([Char.ofNat b], none)
  else if 0xC2 ≤ b && b ≤ 0xDF then ([], some ⟨b - 0xC0, 1, 0x80, 0xBF⟩)
  else if b == 0xE0 then ([], some ⟨0, 2, 0xA0, 0xBF⟩)
  else if b == 0xED then ([], some ⟨0xD, 2, 0x80, 0x9F⟩)
  else if 0xE1 ≤ b && b ≤ 0xEF then ([], some ⟨b - 0xE0, 2, 0x80, 0xBF⟩)
  else if b == 0xF0 then ([], some ⟨0, 3, 0x90, 0xBF⟩)
  else if 0xF1 ≤ b && b ≤ 0xF3 then ([], some ⟨b - 0xF0, 3, 0x80, 0xBF⟩)
  else if b == 0xF4 then ([], some ⟨4, 3, 0x80, 0x8F⟩)
  else ([replacement], none)

/-- What a byte is after the beginning of a character. -/
def Pending.step (p : Pending) (b : Nat) : List Char × Option Pending :=
  if p.least ≤ b && b ≤ p.greatest then
    let bits := p.bits * 0x40 + (b - 0x80)
    if p.owed ≤ 1 then ([Char.ofNat bits], none) else ([], some ⟨bits, p.owed - 1, 0x80, 0xBF⟩)
  else
    let (chars, pending) := first b
    (replacement :: chars, pending)

/-- Reads bytes after the beginning of a character, if there is one. -/
def decodeFrom : Option Pending → List UInt8 → List Char
  | none, [] => []
  | some _, [] => [replacement]
  | pending, b :: rest =>
    let (chars, pending) :=
      match pending with
      | none => first b.toNat
      | some p => p.step b.toNat
    chars ++ decodeFrom pending rest

/-- The text of bytes. -/
def decode (bytes : List UInt8) : String :=
  String.ofList (decodeFrom none bytes)

end CatalogReport.Text.Utf8
