import CatalogReport.Catalog.Filter
import CatalogReport.Live.Engine
import CatalogReport.Text.Blank

/-!
# Statements

How a filter becomes part of a statement. It turns into clauses on columns of the query for a kind;
a clause names its column and holds the values to bind, and only placeholders stand for these in the
text.
-/

namespace CatalogReport

/-- A condition on a column of a query. -/
inductive Clause where
  | like (column pattern : String)
  | among (column : String) (values : List String)
  | outside (column : String) (values : List String)
  deriving DecidableEq, Repr

namespace Clause

def column : Clause → String
  | .like column _ => column
  | .among column _ => column
  | .outside column _ => column

/-- The values to bind, in the order of their placeholders. -/
def binds : Clause → List String
  | .like _ pattern => [pattern]
  | .among _ values => values
  | .outside _ values => values

/-- The placeholders of `count` values from the `n`th on. -/
def placeholders (e : Engine) (n count : Nat) : String :=
  ", ".intercalate ((List.range' n count).map e.placeholder)

/-- The text of a clause whose first value is the `n`th. -/
def text (e : Engine) (n : Nat) : Clause → String
  | .like column _ => "q." ++ column ++ " LIKE " ++ e.placeholder n
  | .among column values => "q." ++ column ++ " IN (" ++ placeholders e n values.length ++ ")"
  | .outside column values => "q." ++ column ++ " NOT IN (" ++ placeholders e n values.length ++ ")"

/-- The texts of clauses that follow one another. -/
def texts (e : Engine) : Nat → List Clause → List String
  | _, [] => []
  | n, clause :: rest => clause.text e n :: texts e (n + clause.binds.length) rest

end Clause

/-- The columns of a query that a filter can narrow; a filter passes over what has no column. -/
structure FilterColumns where
  governed : Attribute → Option String
  type : Option String
  /-- The column with the schema that may belong to the system. -/
  system : Option String

namespace FilterColumns

/-- The clauses of a filter: on the attributes, on the type and on the system schemas. -/
def clauses (c : FilterColumns) (f : Filter) (system : List String) : List Clause :=
  (Attribute.all.filterMap fun a =>
    match c.governed a with
    | some column => if (f.pattern a).isEmpty then none else some (.like column (f.pattern a))
    | none => none) ++
  (match c.type with
    | some column => if f.types.isEmpty then [] else [.among column f.types.names]
    | none => []) ++
  match c.system with
  | some column => if f.withSystem || system.isEmpty then [] else [.outside column system]
  | none => []

end FilterColumns

/-- A query that lists the rows of one kind. -/
structure CatalogQuery where
  text : String
  columns : FilterColumns
  /-- The columns to order by, as the statement names them; none when empty. -/
  order : String

/-- A statement and the values bound to its placeholders. -/
structure Statement where
  text : String
  binds : List String
  deriving DecidableEq, Repr

namespace CatalogQuery

def conditionText (e : Engine) (clauses : List Clause) : String :=
  if clauses.isEmpty then "" else " WHERE " ++ " AND ".intercalate (Clause.texts e 1 clauses)

/-- The statement for the rows that a filter asks for. -/
def statement (q : CatalogQuery) (e : Engine) (f : Filter) (system : List String) : Statement :=
  let clauses := q.columns.clauses f system
  { text := "SELECT * FROM (" ++ Text.trim q.text ++ ") AS q" ++ conditionText e clauses ++
      if q.order.isEmpty then "" else " ORDER BY " ++ q.order
    binds := clauses.flatMap Clause.binds }

end CatalogQuery

end CatalogReport
