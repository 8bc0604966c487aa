import CatalogReport.Live.EngineFunctions
import CatalogReport.Live.Image
import CatalogReport.Live.Reader

/-!
# SQLite

The queries for SQLite, over its table of objects and the table-valued pragmas, and two databases:
an empty one and one that cannot be queried. All objects live in the schema `main`. SQLite names
neither foreign keys nor primary keys that are row numbers, so they are named after their table.
-/

namespace CatalogReport.Sqlite

/-- A text of these lines. -/
def lines (texts : List String) : String :=
  "\n".intercalate texts

/-- The condition for tables and views of the user. -/
def userObjects : String :=
  "m.type IN ('table', 'view') AND m.name NOT LIKE 'sqlite\\_%' ESCAPE '\\'"

/-- The condition for tables whose primary key is the row number, so that no index stands for it. -/
def rowNumberKey : String :=
  lines [
    "m.type = 'table'",
    "  AND EXISTS (",
    "      SELECT 1 FROM pragma_table_info(m.name) pk",
    "      WHERE pk.pk = 1 AND lower(pk.type) = 'integer'",
    "  )",
    "  AND NOT EXISTS (",
    "      SELECT 1 FROM pragma_index_list(m.name) pkl WHERE pkl.origin = 'pk'",
    "  )"]

/-- The databases that are attached. -/
def schemas : String :=
  lines [
    "SELECT name AS schema_name,",
    "       '' AS catalog_name",
    "FROM pragma_database_list"]

/-- Tables and views. -/
def tables : String :=
  lines [
    "SELECT '' AS table_catalog,",
    "       'main' AS table_schema,",
    "       m.name AS table_name,",
    "       CASE m.type WHEN 'view' THEN 'VIEW' ELSE 'BASE TABLE' END AS table_type,",
    "       0 AS row_count,",
    "       0 AS size_bytes,",
    "       '' AS table_comment",
    "FROM sqlite_master m",
    "WHERE " ++ userObjects]

/-- Columns of tables and views. -/
def columns : String :=
  lines [
    "SELECT '' AS table_catalog,",
    "       'main' AS table_schema,",
    "       m.name AS table_name,",
    "       p.name AS column_name,",
    "       p.cid + 1 AS ordinal_position,",
    "       p.type AS data_type,",
    "       COALESCE(p.dflt_value, '') AS column_default,",
    "       CASE WHEN p.\"notnull\" = 0 AND p.pk = 0 THEN 1 ELSE 0 END AS is_nullable,",
    "       0 AS column_size,",
    "       0 AS decimal_digits,",
    "       0 AS num_prec_radix,",
    "       0 AS char_octet_length",
    "FROM sqlite_master m",
    "JOIN pragma_table_info(m.name) p",
    "WHERE " ++ userObjects]

/-- Indexes, and one for each primary key that is the row number. -/
def indexes : String :=
  lines [
    "SELECT '' AS table_catalog,",
    "       'main' AS table_schema,",
    "       m.name AS table_name,",
    "       il.name AS index_name,",
    "       'btree' AS index_type,",
    "       CASE WHEN il.origin = 'pk' THEN 1 ELSE 0 END AS is_primary,",
    "       il.\"unique\" AS is_unique,",
    "       (SELECT group_concat(ii.name, char(10))",
    "        FROM (SELECT name FROM pragma_index_info(il.name) ORDER BY seqno) ii) AS " ++
      "index_columns",
    "FROM sqlite_master m",
    "JOIN pragma_index_list(m.name) il",
    "WHERE m.type = 'table'",
    "UNION ALL",
    "SELECT '', 'main', m.name, m.name || '_pkey', 'btree', 1, 1, p.name",
    "FROM sqlite_master m",
    "JOIN pragma_table_info(m.name) p ON p.pk = 1",
    "WHERE " ++ rowNumberKey]

def indexColumns : String :=
  lines [
    "SELECT '' AS table_catalog,",
    "       'main' AS table_schema,",
    "       m.name AS table_name,",
    "       il.name AS index_name,",
    "       ii.name AS column_name,",
    "       COALESCE(p.type, '') AS data_type,",
    "       ii.seqno + 1 AS ordinal_position",
    "FROM sqlite_master m",
    "JOIN pragma_index_list(m.name) il",
    "JOIN pragma_index_info(il.name) ii",
    "LEFT JOIN pragma_table_info(m.name) p ON p.name = ii.name",
    "WHERE m.type = 'table'",
    "UNION ALL",
    "SELECT '', 'main', m.name, m.name || '_pkey', p.name, p.type, 1",
    "FROM sqlite_master m",
    "JOIN pragma_table_info(m.name) p ON p.pk = 1",
    "WHERE " ++ rowNumberKey]

/-- Keys, unique constraints and foreign keys; those without a name are named after their table. -/
def constraints : String :=
  lines [
    "SELECT '' AS table_catalog,",
    "       'main' AS table_schema,",
    "       m.name AS table_name,",
    "       il.name AS constraint_name,",
    "       CASE il.origin WHEN 'pk' THEN 'PRIMARY KEY' ELSE 'UNIQUE' END AS constraint_type,",
    "       0 AS is_deferrable,",
    "       0 AS initially_deferred,",
    "       '' AS foreign_catalog,",
    "       '' AS foreign_schema,",
    "       '' AS foreign_table,",
    "       '' AS foreign_name,",
    "       '' AS match_type,",
    "       '' AS update_rule,",
    "       '' AS delete_rule,",
    "       '' AS check_clause",
    "FROM sqlite_master m",
    "JOIN pragma_index_list(m.name) il",
    "WHERE m.type = 'table' AND il.origin IN ('pk', 'u')",
    "UNION ALL",
    "SELECT DISTINCT '', 'main', m.name, m.name || '_fk_' || fk.id, 'FOREIGN KEY', 0, 0,",
    "       '', 'main', fk.\"table\", '',",
    "       CASE fk.\"match\" WHEN 'NONE' THEN 'SIMPLE' ELSE fk.\"match\" END,",
    "       fk.on_update, fk.on_delete, ''",
    "FROM sqlite_master m",
    "JOIN pragma_foreign_key_list(m.name) fk",
    "WHERE m.type = 'table'",
    "UNION ALL",
    "SELECT '', 'main', m.name, m.name || '_pkey', 'PRIMARY KEY', 0, 0,",
    "       '', '', '', '', '', '', '', ''",
    "FROM sqlite_master m",
    "WHERE " ++ rowNumberKey]

def constraintColumns : String :=
  lines [
    "SELECT '' AS table_catalog,",
    "       'main' AS table_schema,",
    "       m.name AS table_name,",
    "       il.name AS constraint_name,",
    "       ii.seqno + 1 AS ordinal_position,",
    "       ii.name AS column_name,",
    "       '' AS foreign_catalog,",
    "       '' AS foreign_schema,",
    "       '' AS foreign_table,",
    "       '' AS foreign_column",
    "FROM sqlite_master m",
    "JOIN pragma_index_list(m.name) il",
    "JOIN pragma_index_info(il.name) ii",
    "WHERE m.type = 'table' AND il.origin IN ('pk', 'u')",
    "UNION ALL",
    "SELECT '', 'main', m.name, m.name || '_fk_' || fk.id, fk.seq + 1, fk.\"from\",",
    "       '', 'main', fk.\"table\", COALESCE(fk.\"to\", '')",
    "FROM sqlite_master m",
    "JOIN pragma_foreign_key_list(m.name) fk",
    "WHERE m.type = 'table'",
    "UNION ALL",
    "SELECT '', 'main', m.name, m.name || '_pkey', 1, p.name, '', '', '', ''",
    "FROM sqlite_master m",
    "JOIN pragma_table_info(m.name) p ON p.pk = 1",
    "WHERE " ++ rowNumberKey]

def triggers : String :=
  lines [
    "SELECT '' AS table_catalog,",
    "       'main' AS table_schema,",
    "       tbl_name AS table_name,",
    "       name AS trigger_name,",
    "       COALESCE(sql, '') AS definition",
    "FROM sqlite_master",
    "WHERE type = 'trigger'"]

/-- The functions that the engine knows. -/
def functions : String :=
  lines [
    "SELECT DISTINCT '' AS routine_catalog,",
    "       'main' AS routine_schema,",
    "       name AS routine_name,",
    "       name || '_' || type AS specific_name,",
    "       '' AS result_type,",
    "       '' AS arg_types,",
    "       CASE type WHEN 'a' THEN 'AGGREGATE' WHEN 'w' THEN 'WINDOW' ELSE 'FUNCTION' END",
    "           AS function_type,",
    "       '' AS volatility,",
    "       '' AS security,",
    "       CASE WHEN builtin THEN 'internal' ELSE '' END AS language,",
    "       '' AS source",
    "FROM pragma_function_list"]

/-- The query for each kind that SQLite can list. -/
def queries : Kind → Option String
  | .schemas => some schemas
  | .tables => some tables
  | .columns => some columns
  | .indexes => some indexes
  | .indexColumns => some indexColumns
  | .constraints => some constraints
  | .constraintColumns => some constraintColumns
  | .triggers => some triggers
  | .functions => some functions
  | _ => none

/-- SQLite matches patterns without regard to ASCII case. -/
def matching (pattern text : String) : Bool :=
  Text.Like.isMatch (pattern.map Char.toLower) (text.map Char.toLower)

/-- The columns that statements name. -/
def namedColumns (k : Kind) : List String :=
  Attribute.all.filterMap k.filterColumns.governed ++ k.filterColumns.type.toList ++
    k.filterColumns.system.toList ++ k.orderColumns

/-- What the queries yield in a database without objects. -/
def emptySource : Kind → RowSource
  | .schemas => ⟨["schema_name", "catalog_name"], [[.text "main", .text ""]]⟩
  | .functions => ⟨functionColumns, engineFunctions.map EngineFunction.row⟩
  | k => ⟨namedColumns k, []⟩

/-- A database without objects. -/
def emptyDatabase : LiveDatabase where
  engine := .sqlite
  queries := queries
  sources := fun k => .ok (emptySource k)
  systemSchemas := Engine.sqlite.systemSchemas
  declined := .none
  matching := matching
  patternLimit := some 50000

/-- A database without objects, or one whose every query meets a fault. It declines to list
functions if it did not list them when it was opened. -/
def database (fault? : Option Fault) (listsFunctions : Bool) : LiveDatabase :=
  { emptyDatabase with
    sources := fun k =>
      match fault? with
      | none => .ok (emptySource k)
      | some fault => .error fault.failure
    declined := if listsFunctions then .none else .ofList [.functions] }

end CatalogReport.Sqlite
