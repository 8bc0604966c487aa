import CatalogReport.Catalog.Entity
import CatalogReport.Text.Blank

/-!
# Indexes, constraints and the columns they cover
-/

namespace CatalogReport

structure Index where
  catalog : String := ""
  schema : String := ""
  table : String := ""
  name : String := ""
  /-- The access method. -/
  type : String := ""
  isPrimary : Bool := false
  isUnique : Bool := false
  /-- The names of the indexed columns, in the order of the index. -/
  columns : List String := []
  deriving BEq, Repr

instance : Entity Index where
  noun := "index"
  empty := {}
  fields := [
    .of "catalog" .text (·.catalog) fun v a => { a with catalog := v },
    .of "schema" .text (·.schema) fun v a => { a with schema := v },
    .of "table" .text (·.table) fun v a => { a with table := v },
    .of "name" .text (·.name) fun v a => { a with name := v },
    .of "type" .text (·.type) fun v a => { a with type := v },
    .of "isPrimary" .flag (·.isPrimary) fun v a => { a with isPrimary := v },
    .of "isUnique" .flag (·.isUnique) fun v a => { a with isUnique := v },
    .of "columns" (.list .text) (·.columns) fun v a => { a with columns := v }]
  headers := ["Catalog", "Schema", "Table", "Name", "Primary?", "Unique?", "Type", "Columns"]
  cells a := [a.catalog, a.schema, a.table, a.name, a.isPrimary, a.isUnique, a.type,
    ", ".intercalate a.columns]
  schema a := a.schema
  key a := [a.catalog, a.schema, a.table, a.name]

structure IndexColumn where
  catalog : String := ""
  schema : String := ""
  table : String := ""
  indexName : String := ""
  name : String := ""
  dataType : String := ""
  ordinalPosition : Int32 := 0
  deriving BEq, Repr

instance : Entity IndexColumn where
  noun := "index column"
  empty := {}
  fields := [
    .of "catalog" .text (·.catalog) fun v a => { a with catalog := v },
    .of "schema" .text (·.schema) fun v a => { a with schema := v },
    .of "table" .text (·.table) fun v a => { a with table := v },
    .of "indexName" .text (·.indexName) fun v a => { a with indexName := v },
    .of "name" .text (·.name) fun v a => { a with name := v },
    .of "dataType" .text (·.dataType) fun v a => { a with dataType := v },
    .of "ordinalPosition" .int32 (·.ordinalPosition) fun v a => { a with ordinalPosition := v }]
  headers := ["Catalog", "Schema", "Table", "Index name", "Name", "Data type"]
  cells a := [a.catalog, a.schema, a.table, a.indexName, a.name, a.dataType]
  schema a := a.schema
  key a := [a.catalog, a.schema, a.table, a.indexName, a.name]

/-- What a table constraint demands. -/
inductive ConstraintKind where
  | primaryKey
  | unique
  | foreignKey
  | check
  /-- Anything else that an engine reports. -/
  | other (name : String)
  | unknown
  deriving DecidableEq, Repr

namespace ConstraintKind

def name : ConstraintKind → String
  | .primaryKey => "PRIMARY KEY"
  | .unique => "UNIQUE"
  | .foreignKey => "FOREIGN KEY"
  | .check => "CHECK"
  | .other name => name
  | .unknown => ""

/-- The kind that a text names, blanks around it and ASCII case aside. -/
def ofName (name : String) : ConstraintKind :=
  let upper := (Text.trim name).map Char.toUpper
  if upper == "PRIMARY KEY" then .primaryKey
  else if upper == "UNIQUE" then .unique
  else if upper == "FOREIGN KEY" then .foreignKey
  else if upper == "CHECK" then .check
  else if upper == "" then .unknown
  else .other name

def codec : Codec ConstraintKind :=
  Codec.text.imap ofName name

end ConstraintKind

structure Constraint where
  catalog : String := ""
  schema : String := ""
  /-- The table that has the constraint. -/
  table : String := ""
  name : String := ""
  type : ConstraintKind := .unknown
  isDeferrable : Bool := false
  initiallyDeferred : Bool := false
  foreignCatalog : String := ""
  foreignSchema : String := ""
  /-- The table that a foreign key refers to. -/
  foreignTable : String := ""
  /-- The unique constraint that a foreign key refers to. -/
  foreignName : String := ""
  matchType : String := ""
  updateRule : String := ""
  deleteRule : String := ""
  checkClause : String := ""
  deriving BEq, Repr

/-- What the check clause of a column that may not be null ends with. -/
def notNullEnding : String := " IS NOT NULL"

/-- A check that only says that a column is not null; columns show that themselves. -/
def Constraint.isNotNullCheck (c : Constraint) : Bool :=
  c.type == .check && notNullEnding.toList.isSuffixOf c.checkClause.toList

instance : Entity Constraint where
  noun := "constraint"
  empty := {}
  fields := [
    .of "catalog" .text (·.catalog) fun v a => { a with catalog := v },
    .of "schema" .text (·.schema) fun v a => { a with schema := v },
    .of "table" .text (·.table) fun v a => { a with table := v },
    .of "name" .text (·.name) fun v a => { a with name := v },
    .of "type" ConstraintKind.codec (·.type) fun v a => { a with type := v },
    .of "isDeferrable" .flag (·.isDeferrable) fun v a => { a with isDeferrable := v },
    .of "initiallyDeferred" .flag (·.initiallyDeferred) fun v a =>
      { a with initiallyDeferred := v },
    .of "foreignCatalog" .text (·.foreignCatalog) fun v a => { a with foreignCatalog := v },
    .of "foreignSchema" .text (·.foreignSchema) fun v a => { a with foreignSchema := v },
    .of "foreignTable" .text (·.foreignTable) fun v a => { a with foreignTable := v },
    .of "foreignName" .text (·.foreignName) fun v a => { a with foreignName := v },
    .of "matchType" .text (·.matchType) fun v a => { a with matchType := v },
    .of "updateRule" .text (·.updateRule) fun v a => { a with updateRule := v },
    .of "deleteRule" .text (·.deleteRule) fun v a => { a with deleteRule := v },
    .of "checkClause" .text (·.checkClause) fun v a => { a with checkClause := v }]
  headers := ["Catalog", "Schema", "Table", "Name", "Type", "Foreign table", "Update rule",
    "Delete rule", "Check clause"]
  cells a := [a.catalog, a.schema, a.table, a.name, a.type.name, a.foreignTable, a.updateRule,
    a.deleteRule, a.checkClause]
  schema a := a.schema
  key a := [a.catalog, a.schema, a.table, a.name]

/-- A column of a constraint and, for a foreign key, the column it refers to. -/
structure ConstraintColumn where
  catalog : String := ""
  schema : String := ""
  table : String := ""
  constraint : String := ""
  ordinalPosition : Int32 := 0
  name : String := ""
  foreignCatalog : String := ""
  foreignSchema : String := ""
  foreignTable : String := ""
  foreignName : String := ""
  deriving BEq, Repr

instance : Entity ConstraintColumn where
  noun := "constraint column"
  empty := {}
  fields := [
    .of "catalog" .text (·.catalog) fun v a => { a with catalog := v },
    .of "schema" .text (·.schema) fun v a => { a with schema := v },
    .of "table" .text (·.table) fun v a => { a with table := v },
    .of "constraint" .text (·.constraint) fun v a => { a with constraint := v },
    .of "ordinalPosition" .int32 (·.ordinalPosition) fun v a => { a with ordinalPosition := v },
    .of "name" .text (·.name) fun v a => { a with name := v },
    .of "foreignCatalog" .text (·.foreignCatalog) fun v a => { a with foreignCatalog := v },
    .of "foreignSchema" .text (·.foreignSchema) fun v a => { a with foreignSchema := v },
    .of "foreignTable" .text (·.foreignTable) fun v a => { a with foreignTable := v },
    .of "foreignName" .text (·.foreignName) fun v a => { a with foreignName := v }]
  headers := ["Catalog", "Schema", "Table", "Constraint", "Name", "Foreign table", "Foreign name"]
  cells a := [a.catalog, a.schema, a.table, a.constraint, a.name, a.foreignTable, a.foreignName]
  schema a := a.schema
  key a := [a.catalog, a.schema, a.table, a.constraint, a.name]

end CatalogReport
