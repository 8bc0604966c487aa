import CatalogReport.Text.Unprintable

/-!
# Quoted texts

The quoted form of a text or a character, as messages and summaries show it: quotes and backslashes
are escaped, and so is every character that has no printed form of its own.
-/

namespace CatalogReport.Text

/-- The digits of a number in base sixteen, in lower case. -/
def hexOf (n : Nat) : List Char :=
  Nat.toDigits 16 n

/-- How a character stands in a quoted form that is closed by `quote`. -/
def quotedCharOf (quote c : Char) : List Char :=
  if c == '\x00' then ['\\', '0']
  else if c == '\t' then ['\\', 't']
  else if c == '\n' then ['\\', 'n']
  else if c == '\r' then ['\\', 'r']
  else if c == quote || c == '\\' then ['\\', c]
  else if unprintable.holds c then ['\\', 'u', '\x7b'] ++ hexOf c.toNat ++ ['\x7d']
  else [c]

/-- A text between double quotes. -/
def quoted (s : String) : String :=
  String.ofList ('"' :: s.toList.flatMap (quotedCharOf '"') ++ ['"'])

/-- A character between single quotes. -/
def quotedChar (c : Char) : String :=
  String.ofList ('\'' :: quotedCharOf '\'' c ++ ['\''])

/-- Quoted texts between brackets. -/
def quotedList (texts : List String) : String :=
  "[" ++ ", ".intercalate (texts.map quoted) ++ "]"

/-- Entries between braces. -/
def braced (entries : List String) : String :=
  "\x7b" ++ ", ".intercalate entries ++ "\x7d"

/-- A name with named parts, as a summary of a value shows them. -/
def summary (name : String) (parts : List (String × String)) : String :=
  name ++ " \x7b " ++ ", ".intercalate (parts.map fun part => part.1 ++ ": " ++ part.2) ++ " \x7d"

end CatalogReport.Text
