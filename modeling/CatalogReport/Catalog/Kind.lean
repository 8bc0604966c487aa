import CatalogReport.Catalog.Filter
import CatalogReport.Catalog.Key
import CatalogReport.Catalog.Relation
import CatalogReport.Catalog.Routine
import CatalogReport.Catalog.Stat

/-!
# Kinds of rows

A catalog lists rows of fourteen kinds. A kind fixes the type of its rows, which of their attributes
a filter governs, and whether they have a type or a position.
-/

namespace CatalogReport

inductive Kind where
  | catalogs
  | schemas
  | tables
  | columns
  | indexes
  | indexColumns
  | constraints
  | constraintColumns
  | sequences
  | triggers
  | functions
  | functionColumns
  | columnStats
  | privilegeSummaries
  deriving DecidableEq, Repr

namespace Kind

def all : List Kind :=
  [.catalogs, .schemas, .tables, .columns, .indexes, .indexColumns, .constraints,
    .constraintColumns, .sequences, .triggers, .functions, .functionColumns, .columnStats,
    .privilegeSummaries]

theorem mem_all (k : Kind) : k ∈ all := by
  cases k <;> simp [all]

/-- What the rows of a kind are called. -/
def name : Kind → String
  | .catalogs => "catalogs"
  | .schemas => "schemas"
  | .tables => "tables"
  | .columns => "columns"
  | .indexes => "indexes"
  | .indexColumns => "index columns"
  | .constraints => "constraints"
  | .constraintColumns => "constraint columns"
  | .sequences => "sequences"
  | .triggers => "triggers"
  | .functions => "functions"
  | .functionColumns => "function columns"
  | .columnStats => "column stats"
  | .privilegeSummaries => "privilege summaries"

/-- The name of a kind in summaries of values. -/
def label : Kind → String
  | .catalogs => "Catalogs"
  | .schemas => "Schemas"
  | .tables => "Tables"
  | .columns => "Columns"
  | .indexes => "Indexes"
  | .indexColumns => "IndexColumns"
  | .constraints => "Constraints"
  | .constraintColumns => "ConstraintColumns"
  | .sequences => "Sequences"
  | .triggers => "Triggers"
  | .functions => "Functions"
  | .functionColumns => "FunctionColumns"
  | .columnStats => "ColumnStats"
  | .privilegeSummaries => "PrivilegeSummaries"

def ofName? (name : String) : Option Kind :=
  all.find? fun k => k.name == name

/-- The rows of a kind. -/
abbrev Row : Kind → Type
  | .catalogs => Database
  | .schemas => Schema
  | .tables => Table
  | .columns => Column
  | .indexes => Index
  | .indexColumns => IndexColumn
  | .constraints => Constraint
  | .constraintColumns => ConstraintColumn
  | .sequences => Sequence
  | .triggers => Trigger
  | .functions => Function
  | .functionColumns => FunctionColumn
  | .columnStats => ColumnStat
  | .privilegeSummaries => PrivilegeSummary

instance entity : (k : Kind) → Entity k.Row
  | .catalogs => inferInstanceAs (Entity Database)
  | .schemas => inferInstanceAs (Entity Schema)
  | .tables => inferInstanceAs (Entity Table)
  | .columns => inferInstanceAs (Entity Column)
  | .indexes => inferInstanceAs (Entity Index)
  | .indexColumns => inferInstanceAs (Entity IndexColumn)
  | .constraints => inferInstanceAs (Entity Constraint)
  | .constraintColumns => inferInstanceAs (Entity ConstraintColumn)
  | .sequences => inferInstanceAs (Entity Sequence)
  | .triggers => inferInstanceAs (Entity Trigger)
  | .functions => inferInstanceAs (Entity Function)
  | .functionColumns => inferInstanceAs (Entity FunctionColumn)
  | .columnStats => inferInstanceAs (Entity ColumnStat)
  | .privilegeSummaries => inferInstanceAs (Entity PrivilegeSummary)

/-- The attribute of a row that a filter governs; none when the filter leaves the kind alone. -/
def governed : (k : Kind) → Attribute → Option (k.Row → String)
  | .catalogs, .catalog => some fun (row : Database) => row.catalog
  | .catalogs, .name => some fun (row : Database) => row.catalog
  | .schemas, .catalog => some fun (row : Schema) => row.catalog
  | .schemas, .schema => some fun (row : Schema) => row.schema
  | .schemas, .name => some fun (row : Schema) => row.schema
  | .tables, .catalog => some fun (row : Table) => row.catalog
  | .tables, .schema => some fun (row : Table) => row.schema
  | .tables, .name => some fun (row : Table) => row.name
  | .columns, .catalog => some fun (row : Column) => row.catalog
  | .columns, .schema => some fun (row : Column) => row.schema
  | .columns, .parent => some fun (row : Column) => row.table
  | .columns, .name => some fun (row : Column) => row.name
  | .indexes, .catalog => some fun (row : Index) => row.catalog
  | .indexes, .schema => some fun (row : Index) => row.schema
  | .indexes, .parent => some fun (row : Index) => row.table
  | .indexes, .name => some fun (row : Index) => row.name
  | .indexColumns, .catalog => some fun (row : IndexColumn) => row.catalog
  | .indexColumns, .schema => some fun (row : IndexColumn) => row.schema
  | .indexColumns, .parent => some fun (row : IndexColumn) => row.table
  | .indexColumns, .name => some fun (row : IndexColumn) => row.indexName
  | .constraints, .catalog => some fun (row : Constraint) => row.catalog
  | .constraints, .schema => some fun (row : Constraint) => row.schema
  | .constraints, .parent => some fun (row : Constraint) => row.table
  | .constraints, .reference => some fun (row : Constraint) => row.foreignTable
  | .constraints, .name => some fun (row : Constraint) => row.name
  | .constraintColumns, .catalog => some fun (row : ConstraintColumn) => row.catalog
  | .constraintColumns, .schema => some fun (row : ConstraintColumn) => row.schema
  | .constraintColumns, .parent => some fun (row : ConstraintColumn) => row.table
  | .constraintColumns, .name => some fun (row : ConstraintColumn) => row.constraint
  | .sequences, .catalog => some fun (row : Sequence) => row.catalog
  | .sequences, .schema => some fun (row : Sequence) => row.schema
  | .sequences, .name => some fun (row : Sequence) => row.name
  | .triggers, .catalog => some fun (row : Trigger) => row.catalog
  | .triggers, .schema => some fun (row : Trigger) => row.schema
  | .triggers, .parent => some fun (row : Trigger) => row.table
  | .triggers, .name => some fun (row : Trigger) => row.name
  | .functions, .catalog => some fun (row : Function) => row.catalog
  | .functions, .schema => some fun (row : Function) => row.schema
  | .functions, .name => some fun (row : Function) => row.name
  | .functionColumns, .catalog => some fun (row : FunctionColumn) => row.catalog
  | .functionColumns, .schema => some fun (row : FunctionColumn) => row.schema
  | .functionColumns, .parent => some fun (row : FunctionColumn) => row.function
  | .functionColumns, .name => some fun (row : FunctionColumn) => row.name
  | .columnStats, .catalog => some fun (row : ColumnStat) => row.catalog
  | .columnStats, .schema => some fun (row : ColumnStat) => row.schema
  | .columnStats, .parent => some fun (row : ColumnStat) => row.table
  | .columnStats, .name => some fun (row : ColumnStat) => row.name
  | .privilegeSummaries, .catalog => some fun (row : PrivilegeSummary) => row.catalog
  | .privilegeSummaries, .schema => some fun (row : PrivilegeSummary) => row.schema
  | .privilegeSummaries, .name => some fun (row : PrivilegeSummary) => row.name
  | _, _ => none

/-- The type of a row that a filter restricts. -/
def typeOf : (k : Kind) → Option (k.Row → String)
  | .tables => some fun (row : Table) => row.type
  | .indexes => some fun (row : Index) => row.type
  | .constraints => some fun (row : Constraint) => row.type.name
  | .functions => some fun (row : Function) => row.type
  | .privilegeSummaries => some fun (row : PrivilegeSummary) => row.type
  | _ => none

/-- The position that the rows of a kind are listed by. -/
def position : (k : Kind) → Option (k.Row → Int32)
  | .columns => some fun (row : Column) => row.ordinalPosition
  | .indexColumns => some fun (row : IndexColumn) => row.ordinalPosition
  | .constraintColumns => some fun (row : ConstraintColumn) => row.ordinalPosition
  | .functionColumns => some fun (row : FunctionColumn) => row.ordinalPosition
  | _ => none

end Kind

end CatalogReport
