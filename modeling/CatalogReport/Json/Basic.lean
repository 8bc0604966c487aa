import CatalogReport.Decimal.Layout
import CatalogReport.Order.SortedMap

/-!
# JSON values and their texts

`Json.chars` writes a value either compactly or indented by two spaces a level. A text escapes the
quote, the backslash and the control characters and nothing else.
-/

namespace CatalogReport

/-- A number: whole ones of 64 bits are kept exactly, all others are floats. -/
inductive Number where
  | whole (n : Int)
  | float (x : Float)
  deriving DecidableEq, Repr

/-- A JSON value; the members of a record are written in the order given. -/
inductive Json where
  | null
  | flag (value : Bool)
  | number (value : Number)
  | text (value : String)
  | list (items : List Json)
  | record (members : List (String × Json))
  deriving Repr

namespace Json

/-- A whole number as a value. -/
def ofInt (n : Int) : Json :=
  .number (.whole n)

/-- A float as a value; one that is no number is null. -/
def ofFloat (x : Float) : Json :=
  if (Decimal.Binary.ofFloat x).isFinite then .number (.float x) else .null

/-- Where line breaks and blanks go. -/
inductive Style where
  | compact
  | indented
  deriving DecidableEq, Repr

/-- What separates the parts of a list or record at a depth. -/
def Style.break : Style → Nat → List Char
  | .compact, _ => []
  | .indented, depth => '\n' :: List.replicate (2 * depth) ' '

/-- What separates a key from its value. -/
def Style.afterKey : Style → List Char
  | .compact => [':']
  | .indented => [':', ' ']

/-- The digits of a number below 256 in base sixteen. -/
def hexPair (n : Nat) : List Char :=
  [Nat.digitChar (n / 16), Nat.digitChar (n % 16)]

/-- How a character stands in a written text. -/
def escape (c : Char) : List Char :=
  if c == '"' then ['\\', '"']
  else if c == '\\' then ['\\', '\\']
  else if c == '\n' then ['\\', 'n']
  else if c == '\r' then ['\\', 'r']
  else if c == '\t' then ['\\', 't']
  else if c == '\x08' then ['\\', 'b']
  else if c == '\x0c' then ['\\', 'f']
  else if c.toNat < 0x20 then ['\\', 'u', '0', '0'] ++ hexPair c.toNat
  else [c]

/-- A text between quotes. -/
def textChars (s : String) : List Char :=
  '"' :: s.toList.flatMap escape ++ ['"']

def wholeChars (n : Int) : List Char :=
  (if n < 0 then ['-'] else []) ++ Nat.toDigits 10 n.natAbs

def numberChars : Number → List Char
  | .whole n => wholeChars n
  | .float x => Decimal.jsonForm.write x

mutual

/-- The characters of a value that stands at a depth. -/
def chars (style : Style) (depth : Nat) : Json → List Char
  | .null => ['n', 'u', 'l', 'l']
  | .flag true => ['t', 'r', 'u', 'e']
  | .flag false => ['f', 'a', 'l', 's', 'e']
  | .number n => numberChars n
  | .text s => textChars s
  | .list [] => ['[', ']']
  | .list (item :: rest) =>
    '[' :: style.break (depth + 1) ++ chars style (depth + 1) item ++
      itemsChars style (depth + 1) rest ++ style.break depth ++ [']']
  | .record [] => ['\x7b', '\x7d']
  | .record ((key, value) :: rest) =>
    '\x7b' :: style.break (depth + 1) ++ textChars key ++ style.afterKey ++
      chars style (depth + 1) value ++ membersChars style (depth + 1) rest ++
      style.break depth ++ ['\x7d']

/-- The items after the first, each after a comma. -/
def itemsChars (style : Style) (depth : Nat) : List Json → List Char
  | [] => []
  | item :: rest =>
    ',' :: style.break depth ++ chars style depth item ++ itemsChars style depth rest

/-- The members after the first, each after a comma. -/
def membersChars (style : Style) (depth : Nat) : List (String × Json) → List Char
  | [] => []
  | (key, value) :: rest =>
    ',' :: style.break depth ++ textChars key ++ style.afterKey ++ chars style depth value ++
      membersChars style depth rest

end

/-- The text of a value. -/
def write (style : Style) (j : Json) : String :=
  String.ofList (j.chars style 0)

/-- A record with sorted keys; of members with one key the last is kept. -/
def sortedRecord (members : List (String × Json)) : Json :=
  .record (SortedMap.ofList members)

end Json

end CatalogReport
