import CatalogReport.Text.Blank

/-!
# IPv6 addresses

Eight numbers of sixteen bits, written in hexadecimal between colons. Two colons stand for zeros
that are left out, and the last two numbers may be written as four decimal ones between points. The
text of an address leaves out its first longest run of zeros, if that has more than one.
-/

namespace CatalogReport.Ipv6

/-- The value of a hexadecimal digit. -/
def hexDigit? (c : Char) : Option Nat :=
  if c.isDigit then some (c.toNat - '0'.toNat)
  else if 'a' ≤ c ∧ c ≤ 'f' then some (c.toNat - 'a'.toNat + 10)
  else if 'A' ≤ c ∧ c ≤ 'F' then some (c.toNat - 'A'.toNat + 10)
  else none

/-- A number of at most four hexadecimal digits. -/
def hexNumber? (cs : List Char) : Option Nat := do
  if cs.isEmpty || 4 < cs.length then none
  else
    let digits ← cs.mapM hexDigit?
    some (digits.foldl (fun n d => n * 16 + d) 0)

/-- A decimal number below 256 without needless zeros. -/
def byteNumber? (cs : List Char) : Option Nat :=
  if cs.isEmpty || 3 < cs.length || !cs.all Char.isDigit then none
  else if cs.head? = some '0' ∧ cs ≠ ['0'] then none
  else
    let n := cs.foldl (fun n c => n * 10 + (c.toNat - '0'.toNat)) 0
    if n < 256 then some n else none

/-- The two numbers in four decimal ones. -/
def dottedNumbers? (cs : List Char) : Option (List Nat) :=
  match (Text.pieces (· == '.') cs).map byteNumber? with
  | [some a, some b, some c, some d] => some [a * 256 + b, c * 256 + d]
  | _ => none

/-- The numbers between colons; only the last part may hold points, and only if `dotted` holds. -/
def numbers? (dotted : Bool) : List (List Char) → Option (List Nat)
  | [] => some []
  | [part] =>
    if dotted && part.contains '.' then dottedNumbers? part else (hexNumber? part).map ([·])
  | part :: rest => do
    let n ← hexNumber? part
    let ns ← numbers? dotted rest
    some (n :: ns)

/-- The parts before and after the two colons that stand for zeros, if they are there. -/
def parts? : List (List Char) → Option (List (List Char) × Option (List (List Char)))
  | [] :: [] :: rest => some ([], some (if rest = [[]] then [] else rest))
  | [] :: _ => none
  | parts =>
    match parts.dropWhile fun part => !part.isEmpty with
    | [] => some (parts, none)
    | [_] => none
    | _ :: rest =>
      some (parts.takeWhile fun part => !part.isEmpty, some (if rest = [[]] then [] else rest))

/-- The eight numbers that a text stands for. -/
def ofChars? (cs : List Char) : Option (List Nat) := do
  match ← parts? (Text.pieces (· == ':') cs) with
  | (before, none) =>
    let numbers ← numbers? true before
    if numbers.length = 8 then some numbers else none
  | (before, some after) =>
    let first ← numbers? false before
    let last ← numbers? true after
    if first.length + last.length < 8 then
      some (first ++ List.replicate (8 - first.length - last.length) 0 ++ last)
    else none

/-- How many zeros the numbers begin with. -/
def zeros (numbers : List Nat) : Nat :=
  (numbers.takeWhile (· == 0)).length

/-- The place and the length of the first longest run of zeros. -/
def longestZeros (numbers : List Nat) : Nat × Nat :=
  (List.range numbers.length).foldl
    (fun best i =>
      let n := zeros (numbers.drop i)
      if best.2 < n then (i, n) else best)
    (0, 0)

/-- Numbers between colons. -/
def joined (numbers : List Nat) : List Char :=
  [':'].intercalate (numbers.map (Nat.toDigits 16))

/-- The text of an address. -/
def toChars (numbers : List Nat) : List Char :=
  let (start, length) := longestZeros numbers
  if length < 2 then joined numbers
  else joined (numbers.take start) ++ [':', ':'] ++ joined (numbers.drop (start + length))

end CatalogReport.Ipv6
