import CatalogReport.Describe.Describer

/-!
# Relations in detail

Describes the tables, sequences and indexes that a pattern names, in this order. A table is
described by its columns and a summary of its indexes, constraints and triggers; each section of the
summary has a heading and stands only if it has a line. When nothing was described, a line says so.
-/

namespace CatalogReport.Describer

variable (d : Describer)

/-- A filter for what belongs to a table. -/
def partsOf (schema table : String) : Filter :=
  { schema := schema, parent := table, withSystem := true }

/-- A section of a summary. -/
def block (heading : String) (lines : List String) : List String :=
  if lines.isEmpty then [] else heading :: lines

/-- Names in a row. -/
def joined (names : List String) : String :=
  ", ".intercalate names

/-! ## Indexes of a table -/

/-- A filter for the columns of an index. -/
def indexColumnsOf (i : Index) : Filter :=
  { catalog := i.catalog, schema := i.schema, parent := i.table, name := i.name,
    withSystem := true }

/-- The columns of an index; those that the index itself names when they cannot be listed. -/
def indexColumnNames (i : Index) : Dialogue (List String) := do
  match ← d.optional .indexColumns (indexColumnsOf i) with
  | some columns => .done (columns.map (IndexColumn.name ·))
  | none => .done i.columns

def indexLine (i : Index) (columns : List String) : String :=
  "  \"" ++ i.name ++ "\" " ++ (if i.isPrimary then "PRIMARY_KEY, " else "") ++
    (if i.isUnique then "UNIQUE, " else "") ++ i.type ++ " (" ++ joined columns ++ ")"

def indexLines (schema table : String) : Dialogue (List String) := do
  match ← (d.optional .indexes (partsOf schema table)).within
      ("failed to list indexes for table " ++ table) with
  | none => .done []
  | some indexes =>
    indexes.mapM fun (i : Index) => do
      let columns ← (d.indexColumnNames i).within ("failed to get columns of index " ++ i.name)
      .done (indexLine i columns)

/-! ## Constraints of a table -/

/-- A filter for the columns of a constraint. -/
def constraintColumnsOf (c : Constraint) : Filter :=
  { catalog := c.catalog, schema := c.schema, parent := c.table, name := c.name,
    withSystem := true }

/-- The columns of a constraint and the columns they refer to. -/
def constraintColumns (c : Constraint) : Dialogue (List ConstraintColumn) := do
  match ← (d.optional .constraintColumns (constraintColumnsOf c)).within
      ("failed to get columns of constraint " ++ c.name) with
  | some columns => .done columns
  | none => .done []

/-- A filter for the constraints that refer to a table. -/
def referring (schema table : String) : Filter :=
  { schema := schema, reference := table, withSystem := true }

/-- Whether a check says more than that a column is not null. -/
def isShownCheck (c : Constraint) : Bool :=
  c.type == .check && !c.checkClause.isEmpty && !c.isNotNullCheck

def isForeignKey (c : Constraint) : Bool :=
  c.type == .foreignKey

def checkLine (c : Constraint) : String :=
  "  \"" ++ c.name ++ "\" " ++ c.type.name ++ " (" ++ c.checkClause ++ ")"

/-- What a foreign key demands. -/
def foreignKeyText (c : Constraint) (columns : List ConstraintColumn) : String :=
  c.type.name ++ " (" ++ joined (columns.map (·.name)) ++ ") REFERENCES " ++ c.foreignTable ++
    "(" ++ joined (columns.map (·.foreignName)) ++ ") ON UPDATE " ++ c.updateRule ++
    " ON DELETE " ++ c.deleteRule

def foreignKeyLine (c : Constraint) (columns : List ConstraintColumn) : String :=
  "  \"" ++ c.name ++ "\" " ++ foreignKeyText c columns

def referringLine (c : Constraint) (columns : List ConstraintColumn) : String :=
  "  TABLE \"" ++ c.table ++ "\" CONSTRAINT \"" ++ c.name ++ "\" " ++ foreignKeyText c columns

/-- The lines of those constraints that are kept. -/
def constraintLines (filter : Filter) (keeps : Constraint → Bool)
    (line : Constraint → Dialogue String) : Dialogue (List String) := do
  match ← (d.optional .constraints filter).within "failed to list constraints" with
  | none => .done []
  | some constraints => (constraints.filter keeps).mapM line

/-! ## Triggers of a table -/

def triggerLine (t : Trigger) : String :=
  "  \"" ++ t.name ++ "\" " ++ t.definition

def triggerLines (schema table : String) : Dialogue (List String) := do
  match ← (d.optional .triggers (partsOf schema table)).within
      ("failed to list triggers for table " ++ table) with
  | none => .done []
  | some triggers => .done (triggers.map triggerLine)

/-! ## Tables -/

/-- The summary of a table. -/
def tableSummary (schema table : String) : Dialogue (List String) := do
  let indexes ← d.indexLines schema table
  let checks ← d.constraintLines (partsOf schema table) isShownCheck fun c => .done (checkLine c)
  let foreignKeys ← d.constraintLines (partsOf schema table) isForeignKey fun c => do
    let columns ← d.constraintColumns c
    .done (foreignKeyLine c columns)
  let referring ← d.constraintLines (referring schema table) isForeignKey fun c => do
    let columns ← d.constraintColumns c
    .done (referringLine c columns)
  let triggers ← d.triggerLines schema table
  .done (block "Indexes:" indexes ++ block "Check constraints:" checks ++
    block "Foreign-key constraints:" foreignKeys ++ block "Referenced by:" referring ++
    block "Triggers:" triggers)

def columnHeaders (verbose : Bool) : List String :=
  inDetail verbose ["Name", "Type", "Nullable", "Default"]
    ["Size", "Decimal Digits", "Radix", "Octet Length"]

def columnCells (verbose : Bool) (c : Column) : List Cell :=
  inDetail verbose [c.name, c.dataType, c.isNullable, c.defaultExpr]
    [c.columnSize, c.decimalDigits, c.numPrecRadix, c.charOctetLength]

/-- Describes a table by its columns and its summary; `false` when the columns cannot be listed. -/
def describeTable (verbose : Bool) (t : Table) : Dialogue Bool := do
  match ← (d.optional .columns (partsOf t.schema t.name)).within
      ("failed to list columns for table " ++ t.name) with
  | none => .done false
  | some columns =>
    d.table (t.type ++ " " ++ qualifiedName t.schema t.name) (columnHeaders verbose)
      (columns.map (columnCells verbose))
    let summary ← d.tableSummary t.schema t.name
    unless summary.isEmpty do
      .put (.lines summary)
    .done true

/-- Describes the tables that a filter accepts. -/
def describeTables (filter : Filter) (verbose showSystem : Bool) : Dialogue Bool := do
  if d.offers.has .tables && d.offers.has .columns then
    match ← (d.optional .tables filter).within "failed to list tables" with
    | none => .done false
    | some tables =>
      let described ← (d.visible showSystem tables).mapM fun (t : Table) =>
        (d.describeTable verbose t).within
          ("failed to describe " ++ t.type ++ " " ++ t.schema ++ "." ++ t.name)
      .done (described.any id)
  else .done false

/-! ## Sequences and indexes on their own -/

/-- Describes a sequence by its numbers. -/
def describeSequence (s : Sequence) : Dialogue Unit :=
  .put (.table ⟨Entity.headers Sequence, [Entity.cells s]⟩
    (d.titled ("Sequence " ++ qualifiedName s.schema s.name)).withoutFooter)

/-- Describes the sequences that a filter accepts. -/
def describeSequences (filter : Filter) (showSystem : Bool) : Dialogue Bool := do
  match ← d.optional .sequences filter with
  | none => .done false
  | some sequences =>
    let shown := d.visible showSystem sequences
    shown.forM d.describeSequence
    .done (!shown.isEmpty)

/-- A filter for the columns of an index in any catalog. -/
def indexColumnsAnywhere (i : Index) : Filter :=
  { schema := i.schema, parent := i.table, name := i.name, withSystem := true }

def indexNote (i : Index) : String :=
  (if i.isPrimary then "primary key, " else "") ++ i.type ++ ", for table " ++ i.table

/-- Describes an index by its columns; one without columns is passed over. -/
def describeIndex (i : Index) : Dialogue Unit := do
  match ← (d.optional .indexColumns (indexColumnsAnywhere i)).within
      "failed to get index columns" with
  | none => .done ()
  | some columns =>
    unless columns.isEmpty do
      d.table ("Index " ++ qualifiedName i.schema i.name) ["Name", "Type"]
        (columns.map fun (c : IndexColumn) => [↑c.name, ↑c.dataType])
      .put (.lines [indexNote i])

/-- Describes the indexes that a filter accepts. -/
def describeIndexes (filter : Filter) (name : String) (showSystem : Bool) : Dialogue Bool := do
  if d.offers.has .indexes && d.offers.has .indexColumns then
    match ← (d.optional .indexes filter).within ("failed to list indexes for table " ++ name) with
    | none => .done false
    | some indexes =>
      let shown := d.visible showSystem indexes
      shown.forM fun (i : Index) =>
        (d.describeIndex i).within
          ("failed to describe index " ++ i.name ++ " from table " ++ i.schema ++ "." ++ i.table)
      .done (!shown.isEmpty)
  else .done false

/-- Describes the relations that a pattern names. -/
def describeRelations (pattern : String) (verbose showSystem : Bool) : Dialogue Unit := do
  let filter := matching pattern showSystem
  let tables ← d.describeTables filter verbose showSystem
  let sequences ← (d.describeSequences filter showSystem).within "failed to describe sequences"
  let indexes ← d.describeIndexes filter (Pattern.parse pattern).name showSystem
  unless tables || sequences || indexes do
    notFound pattern

end CatalogReport.Describer
