import CatalogReport.Describe.Describer

/-!
# Plain lists

Databases, schemas, relations, indexes and access privileges. Relations and indexes are also
searched for: when none is left to show, a line says so instead of an empty table.
-/

namespace CatalogReport.Describer

variable (d : Describer)

/-- Lists databases; only the name of the pattern counts. -/
def listDatabases (pattern : String) (verbose : Bool) : Dialogue Unit :=
  match d.config.listDatabases with
  | some list => list pattern verbose
  | none => do
    let filter : Filter := { name := (Pattern.parse pattern).name }
    let rows ← d.primary "\\l" .catalogs filter "failed to list catalogs"
    d.listing "List of databases" rows

/-- Lists schemas; only the name of the pattern counts. -/
def listSchemas (pattern : String) (showSystem : Bool) : Dialogue Unit := do
  let filter : Filter := { name := (Pattern.parse pattern).name, withSystem := showSystem }
  let rows ← d.primary "\\dn" .schemas filter "failed to list schemas"
  d.listing "List of schemas" (d.visible showSystem rows)

def tableHeaders (verbose : Bool) : List String :=
  inDetail verbose ["Name", "Type"] ["Rows", "Size", "Comment"]

def tableCells (verbose : Bool) (t : Table) : List Cell :=
  inDetail verbose [t.name, t.type] [t.rows, t.sizeBytes, t.comment]

/-- Lists the relations of the types behind some letters. -/
def listTables (codes pattern : String) (verbose showSystem : Bool) : Dialogue Unit := do
  let filter :=
    { matching pattern showSystem with types := .ofList (d.config.tableTypes.typesFor codes) }
  let rows ← d.primary "\\dt" .tables filter "failed to list tables"
  let rows := d.visible showSystem rows
  if rows.isEmpty then notFound pattern
  else d.table "List of relations" (tableHeaders verbose) (rows.map (tableCells verbose))

def indexHeaders (verbose : Bool) : List String :=
  inDetail verbose ["Schema", "Name", "Type", "Table"] ["Primary?", "Unique?"]

def indexCells (verbose : Bool) (i : Index) : List Cell :=
  inDetail verbose [i.schema, i.name, i.type, i.table] [i.isPrimary, i.isUnique]

def listIndexes (pattern : String) (verbose showSystem : Bool) : Dialogue Unit := do
  let rows ← d.primary "\\di" .indexes (matching pattern showSystem) "failed to list indexes"
  let rows := d.visible showSystem rows
  if rows.isEmpty then notFound pattern
  else d.table "List of indexes" (indexHeaders verbose) (rows.map (indexCells verbose))

/-- The letters of the relations whose privileges are listed. -/
def privilegeCodes : String := "tvms"

def listPrivileges (pattern : String) (showSystem : Bool) : Dialogue Unit := do
  let filter :=
    { matching pattern showSystem with
      types := .ofList (d.config.tableTypes.typesFor privilegeCodes) }
  let rows ← d.primary "\\dp" .privilegeSummaries filter "failed to list table privileges"
  d.listing "Access privileges" (d.visible showSystem rows)

end CatalogReport.Describer
