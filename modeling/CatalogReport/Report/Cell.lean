import CatalogReport.Decimal.Layout
import CatalogReport.Json.Basic

/-!
# Cells

What one row shows under one header, its text in a table and its value in JSON.
-/

namespace CatalogReport

inductive Cell where
  | null
  | flag (value : Bool)
  | int (value : Int64)
  | float (value : Float)
  | text (value : String)
  deriving DecidableEq, Repr

namespace Cell

instance : Coe String Cell := ⟨.text⟩
instance : Coe Bool Cell := ⟨.flag⟩
instance : Coe Int64 Cell := ⟨.int⟩
instance : Coe Int32 Cell := ⟨fun n => .int n.toInt64⟩
instance : Coe Float Cell := ⟨.float⟩

/-- The text of a whole number. -/
def wholeText (n : Int) : String :=
  String.ofList (Json.wholeChars n)

/-- The text of a cell in a table, with `null` for a missing value. -/
def display (null : String) : Cell → String
  | .null => null
  | .flag true => "YES"
  | .flag false => "NO"
  | .int n => wholeText n.toInt
  | .float x => Decimal.cellText x
  | .text s => s

def toJson : Cell → Json
  | .null => .null
  | .flag b => .flag b
  | .int n => .ofInt n.toInt
  | .float x => .ofFloat x
  | .text s => .text s

end Cell

end CatalogReport
