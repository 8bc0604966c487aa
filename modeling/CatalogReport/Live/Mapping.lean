import CatalogReport.Catalog.Kind
import CatalogReport.Live.Statement
import CatalogReport.Live.Value

/-!
# Rows of a database as rows of a catalog

For every kind of rows: the columns that a filter narrows, the columns that order the rows, and the
columns that the parts of a row are read from. They are the same for all engines.
-/

namespace CatalogReport

/-- The fields of a row by column. -/
abbrev Record := String → Value?

namespace Kind

/-- Columns of catalog, schema, owner and name, the schema also telling system rows. -/
def columnsOf (catalog schema : String) (parent : Option String) (name : String) :
    FilterColumns where
  governed
    | .catalog => some catalog
    | .schema => some schema
    | .parent => parent
    | .reference => none
    | .name => some name
  type := none
  system := some schema

def withReference (c : FilterColumns) (reference : String) : FilterColumns :=
  { c with governed := fun a => if a = .reference then some reference else c.governed a }

/-- The columns that a filter narrows. -/
def filterColumns : Kind → FilterColumns
  | .catalogs => ⟨fun a => if a = .name then some "catalog_name" else none, none, none⟩
  | .schemas =>
    { governed
        | .catalog => some "catalog_name"
        | .name => some "schema_name"
        | _ => none
      type := none
      system := some "schema_name" }
  | .tables =>
    { columnsOf "table_catalog" "table_schema" none "table_name" with type := some "table_type" }
  | .columns => columnsOf "table_catalog" "table_schema" (some "table_name") "column_name"
  | .indexes =>
    { columnsOf "table_catalog" "table_schema" (some "table_name") "index_name" with
      type := some "index_type" }
  | .indexColumns => columnsOf "table_catalog" "table_schema" (some "table_name") "index_name"
  | .constraints =>
    { withReference
        (columnsOf "table_catalog" "table_schema" (some "table_name") "constraint_name")
        "foreign_table" with
      type := some "constraint_type" }
  | .constraintColumns =>
    withReference (columnsOf "table_catalog" "table_schema" (some "table_name") "constraint_name")
      "foreign_table"
  | .sequences => columnsOf "sequence_catalog" "sequence_schema" none "sequence_name"
  | .triggers => columnsOf "table_catalog" "table_schema" (some "table_name") "trigger_name"
  | .functions =>
    { columnsOf "routine_catalog" "routine_schema" none "routine_name" with
      type := some "function_type" }
  | .functionColumns =>
    columnsOf "routine_catalog" "routine_schema" (some "specific_name") "parameter_name"
  | .columnStats => columnsOf "table_catalog" "table_schema" (some "table_name") "column_name"
  | .privilegeSummaries =>
    { columnsOf "table_catalog" "table_schema" none "table_name" with type := some "table_type" }

/-- The columns that order the rows. -/
def orderColumns : Kind → List String
  | .catalogs => ["catalog_name"]
  | .schemas => ["schema_name"]
  | .tables => ["table_schema", "table_name"]
  | .columns => ["table_schema", "table_name", "ordinal_position"]
  | .indexes => ["table_schema", "table_name", "index_name"]
  | .indexColumns => ["table_schema", "table_name", "index_name", "ordinal_position"]
  | .constraints => ["table_schema", "table_name", "constraint_name"]
  | .constraintColumns => ["table_schema", "table_name", "constraint_name", "ordinal_position"]
  | .sequences => ["sequence_schema", "sequence_name"]
  | .triggers => ["table_schema", "table_name", "trigger_name"]
  | .functions => ["routine_schema", "routine_name", "specific_name"]
  | .functionColumns => ["routine_schema", "specific_name", "ordinal_position"]
  | .columnStats => ["table_schema", "table_name", "ordinal_position"]
  | .privilegeSummaries => ["table_schema", "table_name"]

/-- The query for the rows of a kind. -/
def query (k : Kind) (text : String) : CatalogQuery where
  text := text
  columns := k.filterColumns
  order := ", ".intercalate (k.orderColumns.map ("q." ++ ·))

end Kind

/-! ## Parts of a row -/

open Value?

def Database.ofRecord (r : Record) : Database where
  catalog := text (r "catalog_name")

def Schema.ofRecord (r : Record) : Schema where
  schema := text (r "schema_name")
  catalog := text (r "catalog_name")

def Table.ofRecord (r : Record) : Table where
  catalog := text (r "table_catalog")
  schema := text (r "table_schema")
  name := text (r "table_name")
  type := text (r "table_type")
  rows := int (r "row_count")
  sizeBytes := int (r "size_bytes")
  comment := text (r "table_comment")

def Column.ofRecord (r : Record) : Column where
  catalog := text (r "table_catalog")
  schema := text (r "table_schema")
  table := text (r "table_name")
  name := text (r "column_name")
  ordinalPosition := int32 (r "ordinal_position")
  dataType := text (r "data_type")
  defaultExpr := text (r "column_default")
  isNullable := flag (r "is_nullable")
  columnSize := int32 (r "column_size")
  decimalDigits := int32 (r "decimal_digits")
  numPrecRadix := int32 (r "num_prec_radix")
  charOctetLength := int32 (r "char_octet_length")

def Index.ofRecord (r : Record) : Index where
  catalog := text (r "table_catalog")
  schema := text (r "table_schema")
  table := text (r "table_name")
  name := text (r "index_name")
  type := text (r "index_type")
  isPrimary := flag (r "is_primary")
  isUnique := flag (r "is_unique")
  columns := lines (r "index_columns")

def IndexColumn.ofRecord (r : Record) : IndexColumn where
  catalog := text (r "table_catalog")
  schema := text (r "table_schema")
  table := text (r "table_name")
  indexName := text (r "index_name")
  name := text (r "column_name")
  dataType := text (r "data_type")
  ordinalPosition := int32 (r "ordinal_position")

def Constraint.ofRecord (r : Record) : Constraint where
  catalog := text (r "table_catalog")
  schema := text (r "table_schema")
  table := text (r "table_name")
  name := text (r "constraint_name")
  type := .ofName (text (r "constraint_type"))
  isDeferrable := flag (r "is_deferrable")
  initiallyDeferred := flag (r "initially_deferred")
  foreignCatalog := text (r "foreign_catalog")
  foreignSchema := text (r "foreign_schema")
  foreignTable := text (r "foreign_table")
  foreignName := text (r "foreign_name")
  matchType := text (r "match_type")
  updateRule := text (r "update_rule")
  deleteRule := text (r "delete_rule")
  checkClause := text (r "check_clause")

def ConstraintColumn.ofRecord (r : Record) : ConstraintColumn where
  catalog := text (r "table_catalog")
  schema := text (r "table_schema")
  table := text (r "table_name")
  constraint := text (r "constraint_name")
  ordinalPosition := int32 (r "ordinal_position")
  name := text (r "column_name")
  foreignCatalog := text (r "foreign_catalog")
  foreignSchema := text (r "foreign_schema")
  foreignTable := text (r "foreign_table")
  foreignName := text (r "foreign_column")

def Sequence.ofRecord (r : Record) : Sequence where
  catalog := text (r "sequence_catalog")
  schema := text (r "sequence_schema")
  name := text (r "sequence_name")
  dataType := text (r "data_type")
  start := text (r "start_value")
  min := text (r "minimum_value")
  max := text (r "maximum_value")
  increment := text (r "increment")
  cycles := flag (r "cycles")

def Trigger.ofRecord (r : Record) : Trigger where
  catalog := text (r "table_catalog")
  schema := text (r "table_schema")
  table := text (r "table_name")
  name := text (r "trigger_name")
  definition := text (r "definition")

def Function.ofRecord (r : Record) : Function where
  catalog := text (r "routine_catalog")
  schema := text (r "routine_schema")
  name := text (r "routine_name")
  specificName := text (r "specific_name")
  resultType := text (r "result_type")
  argTypes := text (r "arg_types")
  type := text (r "function_type")
  volatility := text (r "volatility")
  security := text (r "security")
  language := text (r "language")
  source := text (r "source")

def FunctionColumn.ofRecord (r : Record) : FunctionColumn where
  catalog := text (r "routine_catalog")
  schema := text (r "routine_schema")
  function := text (r "specific_name")
  name := text (r "parameter_name")
  ordinalPosition := int32 (r "ordinal_position")
  parameterMode := text (r "parameter_mode")
  dataType := text (r "data_type")

/-- The statistics in a row, with what is only read when it is asked for. -/
def ColumnStat.ofRecord (extended : Bool) (r : Record) : ColumnStat :=
  let stat : ColumnStat :=
    { catalog := text (r "table_catalog")
      schema := text (r "table_schema")
      table := text (r "table_name")
      name := text (r "column_name")
      avgWidth := int32 (r "avg_width")
      nullFrac := float (r "null_frac")
      numDistinct := int (r "num_distinct") }
  if extended then
    { stat with
      min := text (r "min_value")
      max := text (r "max_value")
      mean := text (r "mean_value") }.withTopN
      (items Codec.text (r "top_values")) (items Codec.float (r "top_freqs"))
  else stat

def PrivilegeSummary.ofRecord (r : Record) : PrivilegeSummary where
  catalog := text (r "table_catalog")
  schema := text (r "table_schema")
  name := text (r "table_name")
  type := text (r "table_type")
  objectPrivileges := lines (r "object_privileges")
  columnPrivileges := items Codec.text (r "column_privileges")

/-- The row of a catalog in a row of a database, as far as the filter asks for its parts. -/
def Kind.ofRecord (f : Filter) : (k : Kind) → Record → k.Row
  | .catalogs => Database.ofRecord
  | .schemas => Schema.ofRecord
  | .tables => Table.ofRecord
  | .columns => Column.ofRecord
  | .indexes => Index.ofRecord
  | .indexColumns => IndexColumn.ofRecord
  | .constraints => Constraint.ofRecord
  | .constraintColumns => ConstraintColumn.ofRecord
  | .sequences => Sequence.ofRecord
  | .triggers => Trigger.ofRecord
  | .functions => Function.ofRecord
  | .functionColumns => FunctionColumn.ofRecord
  | .columnStats => ColumnStat.ofRecord (f.acceptsType "extended")
  | .privilegeSummaries => PrivilegeSummary.ofRecord

end CatalogReport
