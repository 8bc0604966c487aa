import CatalogReport.Catalog.Entity

/-!
# Namespaces, relations and their columns
-/

namespace CatalogReport

/-- A database that the connection can see. -/
structure Database where
  catalog : String := ""
  deriving BEq, Repr

instance : Entity Database where
  noun := "catalog"
  empty := {}
  fields := [.of "catalog" .text (·.catalog) fun v a => { a with catalog := v }]
  headers := ["Catalog"]
  cells a := [a.catalog]
  schema _ := ""
  key a := [a.catalog]

structure Schema where
  schema : String := ""
  catalog : String := ""
  deriving BEq, Repr

instance : Entity Schema where
  noun := "schema"
  empty := {}
  fields := [
    .of "schema" .text (·.schema) fun v a => { a with schema := v },
    .of "catalog" .text (·.catalog) fun v a => { a with catalog := v }]
  headers := ["Schema", "Catalog"]
  cells a := [a.schema, a.catalog]
  schema a := a.schema
  key a := [a.catalog, a.schema]

/-- A relation: a table, a view, a materialized view, a sequence or a synonym. -/
structure Table where
  catalog : String := ""
  schema : String := ""
  name : String := ""
  type : String := ""
  /-- The estimated number of rows; zero when it is unknown. -/
  rows : Int64 := 0
  sizeBytes : Int64 := 0
  comment : String := ""
  deriving BEq, Repr

instance : Entity Table where
  noun := "table"
  empty := {}
  fields := [
    .of "catalog" .text (·.catalog) fun v a => { a with catalog := v },
    .of "schema" .text (·.schema) fun v a => { a with schema := v },
    .of "name" .text (·.name) fun v a => { a with name := v },
    .of "type" .text (·.type) fun v a => { a with type := v },
    .of "rows" .int64 (·.rows) fun v a => { a with rows := v },
    .of "sizeBytes" .int64 (·.sizeBytes) fun v a => { a with sizeBytes := v },
    .of "comment" .text (·.comment) fun v a => { a with comment := v }]
  headers := ["Catalog", "Schema", "Name", "Type", "Rows", "Size", "Comment"]
  cells a := [a.catalog, a.schema, a.name, a.type, a.rows, a.sizeBytes, a.comment]
  schema a := a.schema
  key a := [a.catalog, a.schema, a.name]

structure Column where
  catalog : String := ""
  schema : String := ""
  table : String := ""
  name : String := ""
  /-- The place in the table, from one. -/
  ordinalPosition : Int32 := 0
  dataType : String := ""
  defaultExpr : String := ""
  isNullable : Bool := false
  columnSize : Int32 := 0
  decimalDigits : Int32 := 0
  numPrecRadix : Int32 := 0
  charOctetLength : Int32 := 0
  deriving BEq, Repr

instance : Entity Column where
  noun := "column"
  empty := {}
  fields := [
    .of "catalog" .text (·.catalog) fun v a => { a with catalog := v },
    .of "schema" .text (·.schema) fun v a => { a with schema := v },
    .of "table" .text (·.table) fun v a => { a with table := v },
    .of "name" .text (·.name) fun v a => { a with name := v },
    .of "ordinalPosition" .int32 (·.ordinalPosition) fun v a => { a with ordinalPosition := v },
    .of "dataType" .text (·.dataType) fun v a => { a with dataType := v },
    .of "defaultExpr" .text (·.defaultExpr) fun v a => { a with defaultExpr := v },
    .of "isNullable" .flag (·.isNullable) fun v a => { a with isNullable := v },
    .of "columnSize" .int32 (·.columnSize) fun v a => { a with columnSize := v },
    .of "decimalDigits" .int32 (·.decimalDigits) fun v a => { a with decimalDigits := v },
    .of "numPrecRadix" .int32 (·.numPrecRadix) fun v a => { a with numPrecRadix := v },
    .of "charOctetLength" .int32 (·.charOctetLength) fun v a => { a with charOctetLength := v }]
  headers := ["Catalog", "Schema", "Table", "Name", "Type", "Nullable", "Default", "Size",
    "Decimal Digits", "Radix", "Octet Length"]
  cells a := [a.catalog, a.schema, a.table, a.name, a.dataType, a.isNullable, a.defaultExpr,
    a.columnSize, a.decimalDigits, a.numPrecRadix, a.charOctetLength]
  schema a := a.schema
  key a := [a.catalog, a.schema, a.table, a.name]

/-- A sequence. Its numbers are kept as the engine spells them, since their ranges differ. -/
structure Sequence where
  catalog : String := ""
  schema : String := ""
  name : String := ""
  dataType : String := ""
  start : String := ""
  min : String := ""
  max : String := ""
  increment : String := ""
  cycles : Bool := false
  deriving BEq, Repr

instance : Entity Sequence where
  noun := "sequence"
  empty := {}
  fields := [
    .of "catalog" .text (·.catalog) fun v a => { a with catalog := v },
    .of "schema" .text (·.schema) fun v a => { a with schema := v },
    .of "name" .text (·.name) fun v a => { a with name := v },
    .of "dataType" .text (·.dataType) fun v a => { a with dataType := v },
    .of "start" .text (·.start) fun v a => { a with start := v },
    .of "min" .text (·.min) fun v a => { a with min := v },
    .of "max" .text (·.max) fun v a => { a with max := v },
    .of "increment" .text (·.increment) fun v a => { a with increment := v },
    .of "cycles" .flag (·.cycles) fun v a => { a with cycles := v }]
  headers := ["Type", "Start", "Min", "Max", "Increment", "Cycles?"]
  cells a := [a.dataType, a.start, a.min, a.max, a.increment, a.cycles]
  schema a := a.schema
  key a := [a.catalog, a.schema, a.name]

end CatalogReport
