import CatalogReport.Catalog.Kind
import CatalogReport.Failure
import CatalogReport.Text.Like

/-!
# Snapshots

All rows of one catalog, as a JSON document. `select` answers a filter: the rows it accepts, by
position where the kind has one and in the order of the snapshot otherwise, and of rows with one key
the first.
-/

namespace CatalogReport

structure Snapshot where
  /-- The driver that the rows came through. -/
  driver : String := ""
  catalogs : List Database := []
  schemas : List Schema := []
  tables : List Table := []
  columns : List Column := []
  indexes : List Index := []
  indexColumns : List IndexColumn := []
  constraints : List Constraint := []
  constraintColumns : List ConstraintColumn := []
  sequences : List Sequence := []
  triggers : List Trigger := []
  functions : List Function := []
  functionColumns : List FunctionColumn := []
  columnStats : List ColumnStat := []
  privilegeSummaries : List PrivilegeSummary := []
  deriving BEq, Repr

namespace Snapshot

def codec : Codec Snapshot :=
  .ofFields [
    .of "driver" .text (·.driver) fun v s => { s with driver := v },
    .of "catalogs" (.list Entity.codec) (·.catalogs) fun v s => { s with catalogs := v },
    .of "schemas" (.list Entity.codec) (·.schemas) fun v s => { s with schemas := v },
    .of "tables" (.list Entity.codec) (·.tables) fun v s => { s with tables := v },
    .of "columns" (.list Entity.codec) (·.columns) fun v s => { s with columns := v },
    .of "indexes" (.list Entity.codec) (·.indexes) fun v s => { s with indexes := v },
    .of "indexColumns" (.list Entity.codec) (·.indexColumns)
      fun v s => { s with indexColumns := v },
    .of "constraints" (.list Entity.codec) (·.constraints) fun v s => { s with constraints := v },
    .of "constraintColumns" (.list Entity.codec) (·.constraintColumns)
      fun v s => { s with constraintColumns := v },
    .of "sequences" (.list Entity.codec) (·.sequences) fun v s => { s with sequences := v },
    .of "triggers" (.list Entity.codec) (·.triggers) fun v s => { s with triggers := v },
    .of "functions" (.list Entity.codec) (·.functions) fun v s => { s with functions := v },
    .of "functionColumns" (.list Entity.codec) (·.functionColumns)
      fun v s => { s with functionColumns := v },
    .of "columnStats" (.list Entity.codec) (·.columnStats) fun v s => { s with columnStats := v },
    .of "privilegeSummaries" (.list Entity.codec) (·.privilegeSummaries)
      fun v s => { s with privilegeSummaries := v }] {}

/-- Reads a snapshot from its text. -/
def ofText (text : String) : Except Failure Snapshot :=
  (codec.parse text).mapError .snapshot

/-- The text of a snapshot, indented. -/
def toText (s : Snapshot) : String :=
  (codec.write s).write .indented

def rows (s : Snapshot) : (k : Kind) → List k.Row
  | .catalogs => s.catalogs
  | .schemas => s.schemas
  | .tables => s.tables
  | .columns => s.columns
  | .indexes => s.indexes
  | .indexColumns => s.indexColumns
  | .constraints => s.constraints
  | .constraintColumns => s.constraintColumns
  | .sequences => s.sequences
  | .triggers => s.triggers
  | .functions => s.functions
  | .functionColumns => s.functionColumns
  | .columnStats => s.columnStats
  | .privilegeSummaries => s.privilegeSummaries

/-- The driver that a reader of the snapshot names. -/
def driverName (s : Snapshot) : String :=
  if s.driver.isEmpty then "snapshot" else s.driver

end Snapshot

namespace Filter

/-- Whether a row has the attributes and the type that a filter asks for. -/
def accepts (f : Filter) (k : Kind) (row : k.Row) : Bool :=
  (Attribute.all.all fun a =>
    match k.governed a with
    | some get => Text.Like.accepts (f.pattern a) (get row)
    | none => true) &&
  match k.typeOf with
  | some get => f.acceptsType (get row)
  | none => true

end Filter

/-- Rows by their position, if the kind has one; rows at one position keep their order. -/
def Kind.inPosition (k : Kind) (rows : List k.Row) : List k.Row :=
  match k.position with
  | some get => rows.mergeSort fun a b => (get a).toInt ≤ (get b).toInt
  | none => rows

/-- The rows of a snapshot that answer a filter. -/
def Snapshot.select (s : Snapshot) (k : Kind) (f : Filter) : List k.Row :=
  Entity.distinct (k.inPosition ((s.rows k).filter (f.accepts k)))

end CatalogReport
