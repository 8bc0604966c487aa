import CatalogReport.Describe.Dialogue
import CatalogReport.Order.NameSet

/-!
# Configuration of the commands

Which schemas belong to the system, which types stand behind the letters that select relations and
functions, and the options that every table starts from.
-/

namespace CatalogReport

/-- The types behind a letter. -/
abbrev TypeTable := SortedMap Char (List String)

namespace TypeTable

/-- The types behind the letters that occur in `codes`, letter by letter. -/
def typesFor (table : TypeTable) (codes : String) : List String :=
  (table.filter fun entry => codes.toList.contains entry.1).flatMap (·.2)

def summary (table : TypeTable) : String :=
  Text.braced (table.map fun entry => Text.quotedChar entry.1 ++ ": " ++ Text.quotedList entry.2)

def relations : TypeTable :=
  .ofList [
    ('t', ["TABLE", "BASE TABLE", "SYSTEM TABLE", "SYNONYM", "LOCAL TEMPORARY",
      "GLOBAL TEMPORARY"]),
    ('v', ["VIEW", "SYSTEM VIEW"]),
    ('m', ["MATERIALIZED VIEW"]),
    ('s', ["SEQUENCE"])]

def functions : TypeTable :=
  .ofList [
    ('a', ["AGGREGATE"]),
    ('n', ["FUNCTION"]),
    ('p', ["PROCEDURE"]),
    ('t', ["TRIGGER"]),
    ('w', ["WINDOW"])]

end TypeTable

structure Config where
  /-- Schemas that are hidden unless they are asked for. -/
  systemSchemas : NameSet := .ofList ["information_schema"]
  tableTypes : TypeTable := .relations
  functionTypes : TypeTable := .functions
  /-- The options that every table starts from. -/
  options : Options := {}
  /-- Lists the databases in place of the reader, given the pattern and whether to be verbose. -/
  listDatabases : Option (String → Bool → Dialogue Unit) := none

namespace Config

def withSystemSchemas (c : Config) (schemas : List String) : Config :=
  { c with systemSchemas := .ofList schemas }

def withTableTypes (c : Config) (code : Char) (types : List String) : Config :=
  { c with tableTypes := c.tableTypes.put code types }

def withFunctionTypes (c : Config) (code : Char) (types : List String) : Config :=
  { c with functionTypes := c.functionTypes.put code types }

def isSystemSchema (c : Config) (schema : String) : Bool :=
  c.systemSchemas.contains schema

/-- The summary of a configuration. -/
def summary (c : Config) : String :=
  Text.summary "WriterConfig" [
    ("system_schemas", Text.braced (c.systemSchemas.names.map Text.quoted)),
    ("table_types", c.tableTypes.summary),
    ("func_types", c.functionTypes.summary),
    ("render", c.options.summary),
    ("list_all_dbs", Options.flagText c.listDatabases.isSome)]

/-- The summary of a configuration and the reader it is used with. -/
def summaryWith {σ : Type} (c : Config) (r : Reader σ) : String :=
  "Writer \x7b reader: " ++ r.summary ++ ", config: " ++ c.summary ++ ", .. \x7d"

end Config

end CatalogReport
