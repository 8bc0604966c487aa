import CatalogReport.Describe.Describer

/-!
# Column statistics

The planner's statistics of the columns of a table. The share of distinct values is taken of the
rows of the first table that the pattern names.
-/

namespace CatalogReport

/-- A share with four decimal places. -/
def shareText (share : Float) : String :=
  Decimal.fixed 4 share

/-- The share of distinct values among the rows of a table; none of an empty one. -/
def distinctFraction (distinct rows : Int64) : String :=
  shareText <|
    if rows = 0 then 0
    else if distinct = rows then 1
    else distinct.toFloat / rows.toFloat

namespace Describer

variable (d : Describer)

def statHeaders (verbose : Bool) : List String :=
  inDetail verbose
    ["Schema", "Table", "Name", "Average width", "Nulls fraction", "Distinct values",
      "Dist. fraction"]
    ["Minimum value", "Maximum value", "Mean value", "Top N common values", "Top N values freqs"]

/-- The cells of a statistic, with at most `k` common values. -/
def statCells (verbose : Bool) (k : Nat) (rows : Int64) (s : ColumnStat) : List Cell :=
  let top := s.topN.take k
  inDetail verbose
    [s.schema, s.table, s.name, s.avgWidth, s.nullFrac, s.numDistinct,
      distinctFraction s.numDistinct rows]
    [s.min, s.max, s.mean, ", ".intercalate (top.map (·.value)),
      ", ".intercalate (top.map fun t => shareText t.frequency)]

/-- The rows of the first table that a pattern names. -/
def rowsOfFirst (pattern : String) : Dialogue Int64 := do
  match ← (d.optional .tables (matching pattern true)).within "failed to get table entry" with
  | some (first :: _) => .done (Table.rows first)
  | _ => .done 0

/-- A filter for the statistics of the columns of a table; the types are the groups of numbers that
are wanted. -/
def statsOf (pattern : String) (verbose : Bool) : Filter :=
  let parsed := Pattern.parse pattern
  { schema := parsed.schema
    parent := parsed.name
    types := .ofList (inDetail verbose ["basic"] ["extended"])
    withSystem := true }

/-- Shows the statistics of the columns of a table, with at most `k` common values each. -/
def showStats (pattern : String) (verbose : Bool) (k : Nat) : Dialogue Unit := do
  d.require "\\ss" .columnStats
  let rows ← d.rowsOfFirst pattern
  let stats ← d.primary "\\ss" .columnStats (statsOf pattern verbose) "failed to get column stats"
  if stats.isEmpty then notFound pattern
  else d.table "Column stats" (statHeaders verbose) (stats.map (statCells verbose k rows))

end Describer

end CatalogReport
