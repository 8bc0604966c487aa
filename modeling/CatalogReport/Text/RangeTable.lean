/-!
# Sets of characters as code point ranges

`table.holds c` decides whether a character lies in one of the ranges.
-/

namespace CatalogReport.Text

/-- Closed ranges of code points. -/
abbrev RangeTable := Array (Nat × Nat)

namespace RangeTable

/-- Whether the code point of `c` lies in one of the ranges. -/
def holds (table : RangeTable) (c : Char) : Bool :=
  table.any fun range => range.1 ≤ c.toNat && c.toNat ≤ range.2

end RangeTable

end CatalogReport.Text
