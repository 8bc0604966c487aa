import CatalogReport.Report.Layout

/-!
# Encoders

A document becomes text in one of two ways: as an aligned table, or as one JSON value on a line of
its own. In JSON a table is a record of its title and its rows, and a row a record of its cells by
header.
-/

namespace CatalogReport

inductive Encoder where
  /-- Tables, with titles in bold if they are asked for so. -/
  | table (bold : Bool := false)
  | json (style : Json.Style)
  deriving DecidableEq, Repr

namespace Encoder

/-- A row by its headers: a header that repeats keeps its last cell, and cells without a header or
headers without a cell are left out. -/
def rowJson (headers : List String) (row : List Cell) : Json :=
  .sortedRecord (headers.zip (row.map Cell.toJson))

def gridJson (grid : Grid) (o : Options) : Json :=
  .sortedRecord [
    ("title", match o.title with
      | some title => .text title
      | none => .null),
    ("rows", .list (grid.rows.map (rowJson grid.headers)))]

def linesJson (texts : List String) : Json :=
  .record [("messages", .list (texts.map .text))]

/-- The text of a document. -/
def encode : Encoder → Document → String
  | _, .verbatim text => text
  | .table bold, .table grid o => String.ofList (Layout.tableText bold grid o)
  | .table _, .lines texts => String.ofList (Layout.unlines (texts.map String.toList))
  | .json style, .table grid o => (gridJson grid o).write style ++ "\n"
  | .json style, .lines texts => (linesJson texts).write style ++ "\n"

end Encoder

/-- What takes the text of a command; one with a limit refuses when the text outgrows it. -/
structure Sink where
  text : String := ""
  limit : Option Nat := none
  /-- What is reported when the sink refuses. -/
  refusal : String := "sink is full"
  deriving DecidableEq, Repr

namespace Sink

def put (s : Sink) (text : String) : Except Failure Sink :=
  let longer := s.text ++ text
  match s.limit with
  | some limit =>
    if longer.utf8ByteSize ≤ limit then .ok { s with text := longer }
    else .error (.output s.refusal)
  | none => .ok { s with text := longer }

end Sink

end CatalogReport
