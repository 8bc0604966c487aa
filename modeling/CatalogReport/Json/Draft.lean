import CatalogReport.Decimal.Scale
import CatalogReport.Json.Basic

/-!
# Reading JSON texts

A text is first scanned into a `Draft`: the value that it spells, up to the first place where it
stops being JSON. Whoever uses the draft goes through it from left to right, so that the first
problem in the text is the one that is met first, be it a break in the draft or a value of the wrong
shape. A value that is only passed over is judged more mildly than one that is read, so a break
knows both verdicts.
-/

namespace CatalogReport

/-- Why a text is not JSON: it ended too early, or it cannot be continued to JSON. -/
inductive Fault where
  | cut
  | malformed
  deriving DecidableEq, Repr

/-- The fault at the place where a text breaks off, for a value that is read and for one that is
passed over. -/
structure Break where
  read : Fault
  skipped : Fault
  deriving DecidableEq, Repr

/-- A fault that is the same either way. -/
def Fault.break (fault : Fault) : Break :=
  ⟨fault, fault⟩

/-- What a text spells. -/
inductive Draft where
  | null
  | flag (value : Bool)
  | number (value : Number)
  | text (value : String)
  /-- A text with half a surrogate pair or a number beyond the floats: to be passed over only. -/
  | unreadable
  | broken (place : Break)
  /-- `stop` is the break that stands in place of a comma or the closing bracket. -/
  | list (items : List Draft) (stop : Option Break)
  /-- Keys with half a surrogate pair have no text. -/
  | record (members : List (Option String × Draft)) (stop : Option Break)
  deriving Repr

namespace Draft

/-- A scanned part and what follows it, which is nothing after a break. -/
abbrev Scanned (α : Type) := α × Option (List Char)

def isBlank (c : Char) : Bool :=
  c == ' ' || c == '\n' || c == '\t' || c == '\r'

def skipBlanks (cs : List Char) : List Char :=
  cs.dropWhile isBlank

def breakAt (fault : Fault) : Scanned Draft :=
  (.broken fault.break, none)

/-! ## Words, numbers, texts -/

/-- Reads the rest of a fixed word that stands for a value. -/
def scanWord (value : Draft) : List Char → List Char → Scanned Draft
  | [], cs => (value, some cs)
  | _ :: _, [] => breakAt .cut
  | w :: word, c :: cs => if c == w then scanWord value word cs else breakAt .malformed

def digitsOf (cs : List Char) : List Nat :=
  cs.map fun c => c.toNat - '0'.toNat

/-- The number that the digits of a whole part stand for. -/
def natOf (digits : List Nat) : Nat :=
  digits.foldl (fun n d => n * 10 + d) 0

/-- A numeral taken apart. -/
structure Numeral where
  negative : Bool
  whole : List Nat
  /-- The digits after the point; none when there is no point. -/
  places : List Nat
  /-- The exponent, when one is written. -/
  exponent : Option Int

namespace Numeral

/-- Whether the numeral is one of a whole number of 64 bits, and which. Zero with a sign is not. -/
def whole? (n : Numeral) : Option Int :=
  if n.places.isEmpty && n.exponent.isNone then
    let value := natOf n.whole
    if n.negative then
      if value != 0 && value ≤ 0x8000000000000000 then some (-value) else none
    else if value < UInt64.size then some value else none
  else none

def scaled (n : Numeral) : Decimal.Scaled :=
  let s := (Decimal.Scaled.whole ⟨0, 0⟩ n.whole).places n.places
  ⟨s.significand, s.exponent + n.exponent.getD 0⟩

def draft (n : Numeral) : Draft :=
  match n.whole? with
  | some value => .number (.whole value)
  | none =>
    match n.scaled.toFloat? n.negative with
    | some x => .number (.float x)
    | none => .unreadable

end Numeral

/-- The break of a numeral that lacks a digit before the characters that follow. -/
def breakNumeral : List Char → Scanned Draft
  | [] => (.broken ⟨.cut, .malformed⟩, none)
  | _ :: _ => breakAt .malformed

/-- Whether an exponent is negative, and its digits with what follows them. -/
def exponentSign : List Char → Bool × List Char
  | '-' :: digits => (true, digits)
  | '+' :: digits => (false, digits)
  | digits => (false, digits)

/-- Reads the exponent of a numeral, if it has one. -/
def scanExponent (negative : Bool) (whole places : List Nat) (cs : List Char) : Scanned Draft :=
  match cs with
  | [] => (Numeral.draft ⟨negative, whole, places, none⟩, some [])
  | c :: rest =>
    if c == 'e' || c == 'E' then
      let (negativeExponent, digits) := exponentSign rest
      match digits.takeWhile Char.isDigit with
      | [] => breakNumeral digits
      | d :: ds =>
        let value : Int := natOf (digitsOf (d :: ds))
        (Numeral.draft ⟨negative, whole, places, some (if negativeExponent then -value else value)⟩,
          some (digits.dropWhile Char.isDigit))
    else (Numeral.draft ⟨negative, whole, places, none⟩, some (c :: rest))

/-- Reads a numeral after its sign. -/
def scanUnsigned (negative : Bool) (cs : List Char) : Scanned Draft :=
  match cs.takeWhile Char.isDigit, cs.dropWhile Char.isDigit with
  | [], _ => breakNumeral cs
  | '0' :: _ :: _, _ => breakAt .malformed
  | whole, '.' :: rest =>
    match rest.takeWhile Char.isDigit with
    | [] => breakNumeral rest
    | places =>
      scanExponent negative (digitsOf whole) (digitsOf places) (rest.dropWhile Char.isDigit)
  | whole, rest => scanExponent negative (digitsOf whole) [] rest

def scanNumber : List Char → Scanned Draft
  | '-' :: cs => scanUnsigned true cs
  | cs => scanUnsigned false cs

/-- A character of a text, or half of a surrogate pair. -/
inductive Piece where
  | char (c : Char)
  | half (unit : Nat)
  deriving DecidableEq, Repr

def isHighHalf (unit : Nat) : Bool :=
  0xD800 ≤ unit && unit ≤ 0xDBFF

def isLowHalf (unit : Nat) : Bool :=
  0xDC00 ≤ unit && unit ≤ 0xDFFF

def Piece.ofUnit (unit : Nat) : Piece :=
  if isHighHalf unit || isLowHalf unit then .half unit else .char (Char.ofNat unit)

def hexValue? (c : Char) : Option Nat :=
  if '0' ≤ c && c ≤ '9' then some (c.toNat - '0'.toNat)
  else if 'a' ≤ c && c ≤ 'f' then some (c.toNat - 'a'.toNat + 10)
  else if 'A' ≤ c && c ≤ 'F' then some (c.toNat - 'A'.toNat + 10)
  else none

def unitOf? (a b c d : Char) : Option Nat := do
  pure ((((← hexValue? a) * 16 + (← hexValue? b)) * 16 + (← hexValue? c)) * 16 + (← hexValue? d))

/-- The character behind a backslash, for the escapes of one letter. -/
def unescape? : Char → Option Char
  | '"' => some '"'
  | '\\' => some '\\'
  | '/' => some '/'
  | 'b' => some '\x08'
  | 'f' => some '\x0c'
  | 'n' => some '\n'
  | 'r' => some '\r'
  | 't' => some '\t'
  | _ => none

/-- How the pieces of a text end: at the closing quote or at a fault. -/
inductive Ending where
  | closed (rest : List Char)
  | broken (fault : Fault)

/-- The pieces of a text after its opening quote; `done` holds those before, last first. -/
def scanPieces (done : List Piece) : List Char → List Piece × Ending
  | [] => (done.reverse, .broken .cut)
  | '"' :: rest => (done.reverse, .closed rest)
  | ['\\'] => (done.reverse, .broken .cut)
  | '\\' :: 'u' :: a :: b :: c :: d :: rest =>
    match unitOf? a b c d with
    | some unit => scanPieces (.ofUnit unit :: done) rest
    | none => (done.reverse, .broken .malformed)
  | '\\' :: 'u' :: rest =>
    (done.reverse, .broken (if (String.ofList rest).utf8ByteSize < 4 then .cut else .malformed))
  | '\\' :: c :: rest =>
    match unescape? c with
    | some c => scanPieces (.char c :: done) rest
    | none => (done.reverse, .broken .malformed)
  | c :: rest =>
    if c.toNat < 0x20 then (done.reverse, .broken .malformed)
    else scanPieces (.char c :: done) rest

/-- The character of a surrogate pair. -/
def joinHalves (high low : Nat) : Char :=
  Char.ofNat ((high - 0xD800) * 0x400 + (low - 0xDC00) + 0x10000)

/-- Joins surrogate pairs; `done` holds the characters before, last first. `none` when a half stands
alone; a high half at the end does so only if the text is `closed`. -/
def joinPieces (closed : Bool) (done : List Char) : List Piece → Option (List Char)
  | [] => some done.reverse
  | .char c :: rest => joinPieces closed (c :: done) rest
  | [.half unit] => if isHighHalf unit && !closed then some done.reverse else none
  | .half high :: .half low :: rest =>
    if isHighHalf high && isLowHalf low then joinPieces closed (joinHalves high low :: done) rest
    else none
  | .half _ :: .char _ :: _ => none

/-- Reads a text after its opening quote: its characters, none if it is unreadable. -/
def scanText (cs : List Char) : Except Break (Option String × List Char) :=
  match scanPieces [] cs with
  | (pieces, .closed rest) => .ok ((joinPieces true [] pieces).map String.ofList, rest)
  | (pieces, .broken fault) =>
    match joinPieces false [] pieces with
    | some _ => .error fault.break
    | none => .error ⟨.malformed, fault⟩

/-! ## Values -/

/-- The fault where a comma or a closing bracket is missing. -/
def separatorFault : List Char → Fault
  | [] => .cut
  | _ :: _ => .malformed

mutual

/-- Reads a value. The fuel bounds the nesting and the number of parts. -/
def scanValue : Nat → List Char → Scanned Draft
  | 0, _ => breakAt .cut
  | fuel + 1, cs =>
    match skipBlanks cs with
    | [] => breakAt .cut
    | '"' :: rest =>
      match scanText rest with
      | .ok (some s, rest) => (.text s, some rest)
      | .ok (none, rest) => (.unreadable, some rest)
      | .error b => (.broken b, none)
    | '[' :: rest =>
      match skipBlanks rest with
      | ']' :: rest => (.list [] none, some rest)
      | rest =>
        let ((items, stop), rest) := scanItems fuel rest
        (.list items stop, rest)
    | '\x7b' :: rest =>
      match skipBlanks rest with
      | '\x7d' :: rest => (.record [] none, some rest)
      | rest =>
        let ((members, stop), rest) := scanMembers fuel rest
        (.record members stop, rest)
    | 'n' :: rest => scanWord .null ['u', 'l', 'l'] rest
    | 't' :: rest => scanWord (.flag true) ['r', 'u', 'e'] rest
    | 'f' :: rest => scanWord (.flag false) ['a', 'l', 's', 'e'] rest
    | c :: rest =>
      if c == '-' || c.isDigit then scanNumber (c :: rest) else breakAt .malformed

/-- Reads the items of a list from one of them on. -/
def scanItems : Nat → List Char → Scanned (List Draft × Option Break)
  | 0, _ => (([], some Fault.cut.break), none)
  | fuel + 1, cs =>
    match scanValue fuel cs with
    | (item, none) => (([item], none), none)
    | (item, some rest) =>
      match skipBlanks rest with
      | ',' :: rest =>
        let ((items, stop), rest) := scanItems fuel rest
        ((item :: items, stop), rest)
      | ']' :: rest => (([item], none), some rest)
      | rest => (([item], some (separatorFault rest).break), none)

/-- Reads the members of a record from a key on. -/
def scanMembers : Nat → List Char → Scanned (List (Option String × Draft) × Option Break)
  | 0, _ => (([], some Fault.cut.break), none)
  | fuel + 1, cs =>
    match skipBlanks cs with
    | '"' :: rest =>
      match scanText rest with
      | .error b => (([], some b), none)
      | .ok (key, rest) =>
        match skipBlanks rest with
        | ':' :: rest =>
          match scanValue fuel rest with
          | (value, none) => (([(key, value)], none), none)
          | (value, some rest) =>
            match skipBlanks rest with
            | ',' :: rest =>
              let ((members, stop), rest) := scanMembers fuel rest
              (((key, value) :: members, stop), rest)
            | '\x7d' :: rest => (([(key, value)], none), some rest)
            | rest => (([(key, value)], some (separatorFault rest).break), none)
        | rest => (([(key, .broken (separatorFault rest).break)], none), none)
    | rest => (([], some (separatorFault rest).break), none)

end

/-- The value that a text begins with. -/
def scan (cs : List Char) : Scanned Draft :=
  scanValue (2 * cs.length + 2) cs

/-! ## Passing over -/

mutual

/-- The fault that is met when a value is passed over. -/
def skip? : Draft → Option Fault
  | .broken b => some b.skipped
  | .list items stop => (skipItems? items).or (stop.map (·.skipped))
  | .record members stop => (skipMembers? members).or (stop.map (·.skipped))
  | _ => none

def skipItems? : List Draft → Option Fault
  | [] => none
  | item :: rest => (skip? item).or (skipItems? rest)

def skipMembers? : List (Option String × Draft) → Option Fault
  | [] => none
  | (_, value) :: rest => (skip? value).or (skipMembers? rest)

end

end Draft

end CatalogReport
