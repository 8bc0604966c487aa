import CatalogReport.Live.Value

/-!
# The functions of SQLite

Every SQLite database knows the same functions, whatever it holds: scalar ones and those over
windows, which aggregates are among, in the engine itself, and scalar ones of its extensions for
full text and for ranges. `engineFunctions` lists them and `EngineFunction.row` is how the engine
does.
-/

namespace CatalogReport.Sqlite

/-- The scalar functions of the engine itself. -/
def scalarNames : List String := [
  "->", "->>", "abs", "changes", "char", "coalesce", "concat", "concat_ws", "current_date",
  "current_time", "current_timestamp", "date", "datetime", "format", "glob", "hex", "ifnull", "iif",
  "instr", "json", "json_array", "json_array_length", "json_error_position", "json_extract",
  "json_insert", "json_object", "json_patch", "json_pretty", "json_quote", "json_remove",
  "json_replace", "json_set", "json_type", "json_valid", "jsonb", "jsonb_array", "jsonb_extract",
  "jsonb_insert", "jsonb_object", "jsonb_patch", "jsonb_remove", "jsonb_replace", "jsonb_set",
  "julianday", "last_insert_rowid", "length", "like", "likelihood", "likely", "load_extension",
  "lower", "ltrim", "max", "min", "nullif", "octet_length", "printf", "quote", "random",
  "randomblob", "replace", "round", "rtrim", "sign", "soundex", "sqlite_compileoption_get",
  "sqlite_compileoption_used", "sqlite_log", "sqlite_source_id", "sqlite_version", "strftime",
  "substr", "substring", "subtype", "time", "timediff", "total_changes", "trim", "typeof", "unhex",
  "unicode", "unixepoch", "unlikely", "upper", "zeroblob"]

/-- The aggregates and window functions of the engine itself. -/
def windowNames : List String := [
  "avg", "count", "cume_dist", "dense_rank", "first_value", "group_concat", "json_group_array",
  "json_group_object", "jsonb_group_array", "jsonb_group_object", "lag", "last_value", "lead",
  "max", "min", "nth_value", "ntile", "percent_rank", "rank", "row_number", "string_agg", "sum",
  "total"]

/-- The functions of the extensions. -/
def extensionNames : List String := [
  "bm25", "fts3_tokenizer", "fts5", "fts5_source_id", "highlight", "match", "matchinfo", "offsets",
  "optimize", "rtreecheck", "rtreedepth", "rtreenode", "snippet"]

/-- A function as the engine lists it. -/
structure EngineFunction where
  name : String
  isWindow : Bool
  isBuiltin : Bool
  deriving DecidableEq, Repr

/-- The functions of every database. -/
def engineFunctions : List EngineFunction :=
  scalarNames.map (fun name => ⟨name, false, true⟩) ++
    windowNames.map (fun name => ⟨name, true, true⟩) ++
    extensionNames.map fun name => ⟨name, false, false⟩

/-- The columns of the query for functions. -/
def functionColumns : List String :=
  ["routine_catalog", "routine_schema", "routine_name", "specific_name", "result_type", "arg_types",
    "function_type", "volatility", "security", "language", "source"]

namespace EngineFunction

/-- The row of a function; the letter of its type tells functions of one name apart. -/
def row (r : EngineFunction) : List Value :=
  [.text "", .text "main", .text r.name, .text (r.name ++ (if r.isWindow then "_w" else "_s")),
    .text "", .text "", .text (if r.isWindow then "WINDOW" else "FUNCTION"), .text "", .text "",
    .text (if r.isBuiltin then "internal" else ""), .text ""]

end EngineFunction

end CatalogReport.Sqlite
