import CatalogReport.Catalog.Entity

/-!
# Column statistics and access privileges
-/

namespace CatalogReport

/-- A common value of a column and the share of rows that have it. -/
structure TopValue where
  value : String := ""
  frequency : Float := 0
  deriving BEq, Repr

def TopValue.codec : Codec TopValue :=
  .ofFields [
    .of "value" .text (·.value) fun v a => { a with value := v },
    .of "frequency" .float (·.frequency) fun v a => { a with frequency := v }] {}

/-- What the planner knows of one column. -/
structure ColumnStat where
  catalog : String := ""
  schema : String := ""
  table : String := ""
  name : String := ""
  avgWidth : Int32 := 0
  /-- The share of rows without a value. -/
  nullFrac : Float := 0
  /-- The estimated number of distinct values. -/
  numDistinct : Int64 := 0
  min : String := ""
  max : String := ""
  mean : String := ""
  /-- The most common values, the most common first. -/
  topN : List TopValue := []
  deriving BEq, Repr

/-- The statistics with these common values; of the longer list the tail without partners is
dropped. -/
def ColumnStat.withTopN (stat : ColumnStat) (values : List String) (frequencies : List Float) :
    ColumnStat :=
  { stat with topN := List.zipWith (fun value frequency => ⟨value, frequency⟩) values frequencies }

instance : Entity ColumnStat where
  noun := "column stat"
  empty := {}
  fields := [
    .of "catalog" .text (·.catalog) fun v a => { a with catalog := v },
    .of "schema" .text (·.schema) fun v a => { a with schema := v },
    .of "table" .text (·.table) fun v a => { a with table := v },
    .of "name" .text (·.name) fun v a => { a with name := v },
    .of "avgWidth" .int32 (·.avgWidth) fun v a => { a with avgWidth := v },
    .of "nullFrac" .float (·.nullFrac) fun v a => { a with nullFrac := v },
    .of "numDistinct" .int64 (·.numDistinct) fun v a => { a with numDistinct := v },
    .of "min" .text (·.min) fun v a => { a with min := v },
    .of "max" .text (·.max) fun v a => { a with max := v },
    .of "mean" .text (·.mean) fun v a => { a with mean := v },
    .of "topN" (.list TopValue.codec) (·.topN) fun v a => { a with topN := v }]
  headers := ["Schema", "Table", "Name", "Average width", "Nulls fraction", "Distinct values"]
  cells a := [a.schema, a.table, a.name, a.avgWidth, a.nullFrac, a.numDistinct]
  schema a := a.schema
  key a := [a.catalog, a.schema, a.table, a.name]

/-- Who may do what with a relation, in the words of the engine. -/
structure PrivilegeSummary where
  catalog : String := ""
  schema : String := ""
  name : String := ""
  type : String := ""
  objectPrivileges : List String := []
  columnPrivileges : List String := []
  deriving BEq, Repr

instance : Entity PrivilegeSummary where
  noun := "privilege summary"
  empty := {}
  fields := [
    .of "catalog" .text (·.catalog) fun v a => { a with catalog := v },
    .of "schema" .text (·.schema) fun v a => { a with schema := v },
    .of "name" .text (·.name) fun v a => { a with name := v },
    .of "type" .text (·.type) fun v a => { a with type := v },
    .of "objectPrivileges" (.list .text) (·.objectPrivileges)
      fun v a => { a with objectPrivileges := v },
    .of "columnPrivileges" (.list .text) (·.columnPrivileges)
      fun v a => { a with columnPrivileges := v }]
  headers := ["Schema", "Name", "Type", "Access privileges", "Column privileges"]
  cells a := [a.schema, a.name, a.type, "\n".intercalate a.objectPrivileges,
    "\n".intercalate a.columnPrivileges]
  schema a := a.schema
  key a := [a.catalog, a.schema, a.name]

end CatalogReport
