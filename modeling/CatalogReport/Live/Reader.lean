import CatalogReport.Live.Mapping
import CatalogReport.Reader.Basic

/-!
# The reader of a live database

A database yields rows for the query of each kind. The reader sends a statement for every query of a
catalog that it does not decline, and keeps a list of them; the rows that satisfy the clauses of the
statement come back in its order, and of rows with one key the first is kept.
-/

namespace CatalogReport

/-- What the query for a kind yields before it is narrowed. -/
structure RowSource where
  columns : List String
  rows : List (List Value)
  deriving DecidableEq, Repr

namespace RowSource

/-- Whether two names of columns are the same to a statement, which does not heed ASCII case. -/
def sameName (a b : String) : Bool :=
  a.map Char.toLower == b.map Char.toLower

/-- Whether a statement can name a column. -/
def knows (s : RowSource) (column : String) : Bool :=
  s.columns.any (sameName · column)

/-- The field that a statement names, and the name that its column has. Of columns whose names are
the same to it the first keeps its name, and the others get names of their own. -/
def field? (s : RowSource) (row : List Value) (column : String) : Option (String × Value) :=
  (s.columns.zip row).find? fun field => sameName field.1 column

/-- The fields of a row. -/
def record (s : RowSource) (row : List Value) : Record :=
  fun column =>
    match s.field? row column with
    | some (name, v) => if name = column then some v else none
    | none => none

/-- The fields of a row as a statement names them. -/
def namedRecord (s : RowSource) (row : List Value) : Record :=
  fun column => (s.field? row column).map Prod.snd

end RowSource

/-- Whether a row satisfies a clause, given what the database takes for a match of a pattern. Null
satisfies none, and only a text is among texts. -/
def Clause.holds (matching : String → String → Bool) (r : Record) : Clause → Bool
  | .like column pattern =>
    match r column with
    | some .null => false
    | v => matching pattern (Value?.text v)
  | .among column values =>
    match r column with
    | some (.text s) => values.contains s
    | _ => false
  | .outside column values =>
    match r column with
    | some .null => false
    | some (.text s) => !values.contains s
    | _ => true

/-- Whether a row comes before or with another in the order of these columns. -/
def recordLe : List String → Record → Record → Bool
  | [], _, _ => true
  | column :: rest, a, b =>
    let x := (a column).getD .null
    let y := (b column).getD .null
    if x.le y then if y.le x then recordLe rest a b else true else false

/-- Whether a clause has a pattern of more bytes than the limit. -/
def Clause.isTooLong (limit : Option Nat) : Clause → Bool
  | .like _ pattern => limit.any (· < pattern.utf8ByteSize)
  | _ => false

/-- Clauses in the order in which a row is held against them: patterns of the schema come first, and
other patterns last. -/
def FilterColumns.inTurn (c : FilterColumns) (clauses : List Clause) : List Clause :=
  let isPattern : Clause → Bool
    | .like _ _ => true
    | _ => false
  let ofSchema (clause : Clause) : Bool :=
    isPattern clause && some clause.column == c.governed .schema
  clauses.filter ofSchema ++ clauses.filter (fun clause => !isPattern clause) ++
    clauses.filter fun clause => isPattern clause && !ofSchema clause

/-- Whether a row satisfies all clauses before one with a pattern that is too long. -/
def Clause.meetsTooLong (limit : Option Nat) (matching : String → String → Bool) (r : Record) :
    List Clause → Bool
  | [] => false
  | clause :: rest =>
    clause.isTooLong limit || (clause.holds matching r && meetsTooLong limit matching r rest)

structure LiveDatabase where
  engine : Engine
  /-- The query for each kind that the engine can list. -/
  queries : Kind → Option String
  /-- What the query for a kind yields, or how it fails. -/
  sources : Kind → Except Failure RowSource
  systemSchemas : List String
  declined : Capabilities
  /-- What the database takes for a match of a pattern. -/
  matching : String → String → Bool
  /-- The most bytes of a pattern. -/
  patternLimit : Option Nat := none

namespace LiveDatabase

variable (db : LiveDatabase)

def offers : Capabilities :=
  ⟨fun k => (db.queries k).isSome⟩

/-- What a statement reports that names a column which is not there. -/
def missingColumn (column : String) : Failure :=
  .driver ("no such column: q." ++ column)

/-- What a statement reports whose pattern is too long. -/
def patternTooLong : Failure :=
  .driver "error returned from database: (code: 1) LIKE or GLOB pattern too complex"

/-- Whether a statement with these clauses comes upon a pattern that is too long. -/
def refuses (k : Kind) (source : RowSource) (clauses : List Clause) : Bool :=
  let inTurn := k.filterColumns.inTurn clauses
  source.rows.any fun row =>
    Clause.meetsTooLong db.patternLimit db.matching (source.namedRecord row) inTurn

/-- The rows of a kind in the order of the statement. -/
def select (k : Kind) (f : Filter) : Except Failure (List k.Row) := do
  let source ← db.sources k
  let clauses := k.filterColumns.clauses f db.systemSchemas
  match (clauses.map Clause.column ++ k.orderColumns).find? fun c => !source.knows c with
  | some column => .error (missingColumn column)
  | none =>
    if db.refuses k source clauses then .error patternTooLong
    else
      let named := source.namedRecord
      let kept := source.rows.filter fun row => clauses.all (Clause.holds db.matching (named row))
      let sorted := kept.mergeSort fun a b => recordLe k.orderColumns (named a) (named b)
      .ok (Entity.distinct (sorted.map fun row => k.ofRecord f (source.record row)))

/-- The statement for a filter, if the kind is listed at all. -/
def statement? (k : Kind) (f : Filter) : Option Statement :=
  if db.declined.has k then none
  else (db.queries k).map fun text => (k.query text).statement db.engine f db.systemSchemas

/-- The reader of a database; it keeps the statements that it sent, the last one first. -/
def reader : Reader (List Statement) where
  driver := db.engine.driver
  offers := db.offers
  ask k f sent :=
    match db.statement? k f with
    | none => (.error .notSupported, sent)
    | some statement => (db.select k f, statement :: sent)

end LiveDatabase

end CatalogReport
