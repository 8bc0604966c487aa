import CatalogReport.Report.Cell
import CatalogReport.Report.Options

/-!
# Documents

What a command hands out: tables of cells and free lines, before any layout.
-/

namespace CatalogReport

/-- Rows of cells under headers. A row may have fewer or more cells than there are headers. -/
structure Grid where
  headers : List String
  rows : List (List Cell)
  deriving DecidableEq, Repr

inductive Document where
  | table (grid : Grid) (options : Options)
  | lines (texts : List String)
  /-- A text that is handed out as it is. -/
  | verbatim (text : String)
  deriving DecidableEq, Repr

end CatalogReport
