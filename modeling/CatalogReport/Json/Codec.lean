import CatalogReport.Json.Draft

/-!
# Values of the program as JSON

A `Codec` writes the values of a type as JSON and reads them from a draft. `Codec.ofFields` makes
the codec of a structure from its fields: it is written as a record of all fields in order and read
from a record, in any order, with unknown members passed over, or from a list of the fields in
order; missing fields keep the values of the structure that reading starts from.
-/

namespace CatalogReport

/-- Why a text is not the JSON of a value. -/
inductive Misread where
  /-- The text ends too early. -/
  | cut
  /-- The text is not JSON. -/
  | malformed
  /-- The text is JSON of another shape. -/
  | mismatched
  deriving DecidableEq, Repr

def Fault.misread : Fault → Misread
  | .cut => .cut
  | .malformed => .malformed

namespace Draft

/-- What is reported for a value of the wrong shape; scalars are read to their end first. -/
def refuse : Draft → Misread
  | .unreadable => .malformed
  | .broken b => b.read.misread
  | _ => .mismatched

/-- What is reported at the end of a list or record that broke off. -/
def stopped {α : Type} (stop : Option Break) (value : α) : Except Misread α :=
  match stop with
  | none => .ok value
  | some b => .error b.read.misread

mutual

/-- The value of a draft without breaks. -/
def toJson : Draft → Except Misread Json
  | .null => .ok .null
  | .flag value => .ok (.flag value)
  | .number value => .ok (.number value)
  | .text value => .ok (.text value)
  | .unreadable => .error .malformed
  | .broken b => .error b.read.misread
  | .list items stop => do stopped stop (.list (← itemsToJson items))
  | .record members stop => do stopped stop (.record (← membersToJson members))

def itemsToJson : List Draft → Except Misread (List Json)
  | [] => .ok []
  | item :: rest => do
    let item ← toJson item
    let rest ← itemsToJson rest
    .ok (item :: rest)

def membersToJson : List (Option String × Draft) → Except Misread (List (String × Json))
  | [] => .ok []
  | (none, _) :: _ => .error .malformed
  | (some key, value) :: rest => do
    let value ← toJson value
    let rest ← membersToJson rest
    .ok ((key, value) :: rest)

end

end Draft

/-- The JSON of the values of a type. -/
structure Codec (α : Type) where
  write : α → Json
  read : Draft → Except Misread α

namespace Codec

/-- Reads a text that holds one value and nothing else. -/
def parse {α : Type} (codec : Codec α) (text : String) : Except Misread α :=
  let (draft, rest) := Draft.scan text.toList
  do
    let value ← codec.read draft
    match Draft.skipBlanks (rest.getD []) with
    | [] => .ok value
    | _ :: _ => .error .malformed

/-- Any JSON value. -/
def json : Codec Json where
  write := id
  read := Draft.toJson

def text : Codec String where
  write := .text
  read
    | .text s => .ok s
    | d => .error d.refuse

def flag : Codec Bool where
  write := .flag
  read
    | .flag b => .ok b
    | d => .error d.refuse

/-- Whole numbers of 32 bits; one outside the range has the wrong shape. -/
def int32 : Codec Int32 where
  write n := .ofInt n.toInt
  read
    | .number (.whole n) =>
      if Int32.minValue.toInt ≤ n ∧ n ≤ Int32.maxValue.toInt then .ok (Int32.ofInt n)
      else .error .mismatched
    | d => .error d.refuse

/-- Whole numbers of 64 bits; one outside the range has the wrong shape. -/
def int64 : Codec Int64 where
  write n := .ofInt n.toInt
  read
    | .number (.whole n) =>
      if Int64.minValue.toInt ≤ n ∧ n ≤ Int64.maxValue.toInt then .ok (Int64.ofInt n)
      else .error .mismatched
    | d => .error d.refuse

/-- The float nearest to a whole number of 64 bits. -/
def floatOfWhole (n : Int) : Float :=
  if n < 0 then (Int64.ofInt n).toFloat else (UInt64.ofNat n.toNat).toFloat

def float : Codec Float where
  write := .ofFloat
  read
    | .number (.float x) => .ok x
    | .number (.whole n) => .ok (floatOfWhole n)
    | d => .error d.refuse

/-- Reads items up to the first that cannot be read. -/
def readItems {α : Type} (read : Draft → Except Misread α) : List Draft → Except Misread (List α)
  | [] => .ok []
  | item :: rest => do
    let value ← read item
    let values ← readItems read rest
    .ok (value :: values)

def list {α : Type} (item : Codec α) : Codec (List α) where
  write values := .list (values.map item.write)
  read
    | .list items stop => do Draft.stopped stop (← readItems item.read items)
    | d => .error d.refuse

/-- The JSON of a type by way of another. -/
def imap {α β : Type} (codec : Codec α) (make : α → β) (view : β → α) : Codec β where
  write b := codec.write (view b)
  read d := (codec.read d).map make

end Codec

/-- One field of a structure: its key, and how it is written and read into the structure. -/
structure Field (α : Type) where
  key : String
  write : α → Json
  read : Draft → α → Except Misread α

namespace Field

/-- The field that `get` reads and `set` replaces. -/
def of {α β : Type} (key : String) (codec : Codec β) (get : α → β) (set : β → α → α) : Field α where
  key := key
  write a := codec.write (get a)
  read d a := (codec.read d).map (set · a)

/-- Reads the members of a record, in any order; a field may not come twice. -/
def readMembers {α : Type} (fields : List (Field α)) :
    List String → α → List (Option String × Draft) → Except Misread α
  | _, a, [] => .ok a
  | _, _, (none, _) :: _ => .error .malformed
  | seen, a, (some key, value) :: rest =>
    match fields.find? fun field => field.key == key with
    | some field =>
      if seen.contains key then .error .mismatched
      else do
        let a ← field.read value a
        readMembers fields (key :: seen) a rest
    | none =>
      match value.skip? with
      | some fault => .error fault.misread
      | none => readMembers fields seen a rest

/-- Reads fields in order as long as there are items. -/
def readInOrder {α : Type} : List (Field α) → Option Break → α → List Draft → Except Misread α
  | _, stop, a, [] => Draft.stopped stop a
  | [], _, _, _ :: _ => .error .malformed
  | field :: fields, stop, a, item :: rest => do
    let a ← field.read item a
    readInOrder fields stop a rest

end Field

/-- The codec of a structure with these fields; reading starts from `empty`. -/
def Codec.ofFields {α : Type} (fields : List (Field α)) (empty : α) : Codec α where
  write a := .record (fields.map fun field => (field.key, field.write a))
  read
    | .record members stop => do Draft.stopped stop (← Field.readMembers fields [] empty members)
    | .list items stop => Field.readInOrder fields stop empty items
    | d => .error d.refuse

end CatalogReport
