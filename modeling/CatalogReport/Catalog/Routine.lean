import CatalogReport.Catalog.Entity

/-!
# Triggers, functions and their parameters
-/

namespace CatalogReport

structure Trigger where
  catalog : String := ""
  schema : String := ""
  table : String := ""
  name : String := ""
  /-- The definition as the engine reports it. -/
  definition : String := ""
  deriving BEq, Repr

instance : Entity Trigger where
  noun := "trigger"
  empty := {}
  fields := [
    .of "catalog" .text (·.catalog) fun v a => { a with catalog := v },
    .of "schema" .text (·.schema) fun v a => { a with schema := v },
    .of "table" .text (·.table) fun v a => { a with table := v },
    .of "name" .text (·.name) fun v a => { a with name := v },
    .of "definition" .text (·.definition) fun v a => { a with definition := v }]
  headers := ["Catalog", "Schema", "Table", "Name", "Definition"]
  cells a := [a.catalog, a.schema, a.table, a.name, a.definition]
  schema a := a.schema
  key a := [a.catalog, a.schema, a.table, a.name]

/-- A function, a procedure or an aggregate. -/
structure Function where
  catalog : String := ""
  schema : String := ""
  name : String := ""
  /-- A name of its own among the functions with the same name. -/
  specificName : String := ""
  resultType : String := ""
  /-- The arguments as the engine reports them. -/
  argTypes : String := ""
  type : String := ""
  volatility : String := ""
  security : String := ""
  language : String := ""
  source : String := ""
  deriving BEq, Repr

instance : Entity Function where
  noun := "function"
  empty := {}
  fields := [
    .of "catalog" .text (·.catalog) fun v a => { a with catalog := v },
    .of "schema" .text (·.schema) fun v a => { a with schema := v },
    .of "name" .text (·.name) fun v a => { a with name := v },
    .of "specificName" .text (·.specificName) fun v a => { a with specificName := v },
    .of "resultType" .text (·.resultType) fun v a => { a with resultType := v },
    .of "argTypes" .text (·.argTypes) fun v a => { a with argTypes := v },
    .of "type" .text (·.type) fun v a => { a with type := v },
    .of "volatility" .text (·.volatility) fun v a => { a with volatility := v },
    .of "security" .text (·.security) fun v a => { a with security := v },
    .of "language" .text (·.language) fun v a => { a with language := v },
    .of "source" .text (·.source) fun v a => { a with source := v }]
  headers := ["Schema", "Name", "Result data type", "Argument data types", "Type"]
  cells a := [a.schema, a.name, a.resultType, a.argTypes, a.type]
  schema a := a.schema
  key a := [a.catalog, a.schema, a.specificName]

/-- A parameter of a function, or its result. -/
structure FunctionColumn where
  catalog : String := ""
  schema : String := ""
  /-- The specific name of the function. -/
  function : String := ""
  name : String := ""
  /-- The place among the arguments, from one; zero for the result. -/
  ordinalPosition : Int32 := 0
  /-- The direction of the argument, which may be empty. -/
  parameterMode : String := ""
  dataType : String := ""
  deriving BEq, Repr

/-- The direction that an argument has when none is shown. -/
def inwardMode : String := "IN"

/-- The signature of an argument: its direction, name and type, as far as they are worth showing. -/
def FunctionColumn.signature (c : FunctionColumn) : String :=
  let mode := if c.parameterMode == inwardMode then "" else c.parameterMode
  " ".intercalate ([mode, c.name, c.dataType].filter fun part => !part.isEmpty)

instance : Entity FunctionColumn where
  noun := "function column"
  empty := {}
  fields := [
    .of "catalog" .text (·.catalog) fun v a => { a with catalog := v },
    .of "schema" .text (·.schema) fun v a => { a with schema := v },
    .of "function" .text (·.function) fun v a => { a with function := v },
    .of "name" .text (·.name) fun v a => { a with name := v },
    .of "ordinalPosition" .int32 (·.ordinalPosition) fun v a => { a with ordinalPosition := v },
    .of "parameterMode" .text (·.parameterMode) fun v a => { a with parameterMode := v },
    .of "dataType" .text (·.dataType) fun v a => { a with dataType := v }]
  headers := ["Catalog", "Schema", "Function", "Name", "Mode", "Data type"]
  cells a := [a.catalog, a.schema, a.function, a.name, a.parameterMode, a.dataType]
  schema a := a.schema
  key a := [a.catalog, a.schema, a.function, Cell.wholeText a.ordinalPosition.toInt]

end CatalogReport
