import CatalogReport.Report.Document
import CatalogReport.Text.Blank
import CatalogReport.Text.Width

/-!
# Tables as text

Every cell is set left with a blank on both sides; a column is as wide as its widest line and a row
as high as its tallest cell. The title stands centred above, the number of rows below.
-/

namespace CatalogReport

namespace Layout

/-- The lines of a cell. -/
abbrev Block := List (List Char)

def blockOf (text : String) : Block :=
  Text.pieces (· == '\n') text.toList

def blockWidth (block : Block) : Nat :=
  (block.map Text.width).foldl max 0

def blanks (n : Nat) : List Char :=
  List.replicate n ' '

/-- A line with a blank on both sides, filled up to the width of its column. -/
def padded (width : Nat) (line : List Char) : List Char :=
  ' ' :: line ++ blanks (width - Text.width line) ++ [' ']

/-- The rows of a table with as many cells as the longest of them. -/
def squared (rows : List (List Block)) : List (List Block) :=
  let columns := (rows.map List.length).foldl max 0
  rows.map fun row => row ++ List.replicate (columns - row.length) [[]]

/-- The width of each column; the rows have one length. -/
def columnWidths : List (List Block) → List Nat
  | [] => []
  | row :: rows =>
    rows.foldl (fun widths row => List.zipWith (fun w block => max w (blockWidth block)) widths row)
      (row.map blockWidth)

/-- The strokes of a border: what stands before, between and after the cells of a line. -/
structure Strokes where
  before : List Char
  between : List Char
  after : List Char

/-- A horizontal rule and the strokes that cross it. -/
structure Rule where
  stroke : Char
  strokes : Strokes

/-- How a border draws a table. -/
structure Frame where
  cells : Strokes
  top : Option Rule
  below : Option Rule
  bottom : Option Rule

def frame : Border → Frame
  | .plain => ⟨⟨[], [' '], []⟩, none, none, none⟩
  | .psql => ⟨⟨[], ['|'], []⟩, none, some ⟨'-', ⟨[], ['+'], []⟩⟩, none⟩
  | .rounded =>
    ⟨⟨['│'], ['│'], ['│']⟩, some ⟨'─', ⟨['╭'], ['┬'], ['╮']⟩⟩,
      some ⟨'─', ⟨['├'], ['┼'], ['┤']⟩⟩, some ⟨'─', ⟨['╰'], ['┴'], ['╯']⟩⟩⟩

def Strokes.line (s : Strokes) (parts : List (List Char)) : List Char :=
  s.before ++ List.intercalate s.between parts ++ s.after

/-- A rule across columns of these widths. -/
def Rule.line (r : Rule) (widths : List Nat) : List Char :=
  r.strokes.line (widths.map fun w => List.replicate (w + 2) r.stroke)

/-- The first lines of one row, as many as are asked for. -/
def firstLines (f : Frame) (widths : List Nat) : Nat → List Block → List (List Char)
  | 0, _ => []
  | height + 1, row =>
    f.cells.line (List.zipWith (fun w block => padded w (block.headD [])) widths row) ::
      firstLines f widths height (row.map List.tail)

/-- The lines of one row. -/
def rowLines (f : Frame) (widths : List Nat) (row : List Block) : List (List Char) :=
  firstLines f widths ((row.map List.length).foldl max 0) row

/-- The cells that a line of the table takes. -/
def totalWidth (border : Border) (widths : List Nat) : Nat :=
  if widths.isEmpty then 0
  else
    let s := (frame border).cells
    s.before.length + s.after.length + (widths.length - 1) * s.between.length +
      widths.foldl (fun total width => total + width + 2) 0

/-- The lines of a table, the first row being the header. A table of a header alone ends with the
rule below it. -/
def tableLines (border : Border) (widths : List Nat) (rows : List (List Block)) :
    List (List Char) :=
  let f := frame border
  let rule (r : Option Rule) : List (List Char) := (r.map (·.line widths)).toList
  match rows with
  | [] => []
  | header :: body =>
    if widths.isEmpty then []
    else
      rule f.top ++ rowLines f widths header ++ rule f.below ++ body.flatMap (rowLines f widths) ++
        (if body.isEmpty then [] else rule f.bottom)

/-- A title centred in a width, without the blanks after it. -/
def centred (width : Nat) (title : String) : List Char :=
  let cs := title.toList
  Text.trimEndOf (blanks ((width - cs.length) / 2) ++ cs)

/-- A line that terminals show in bold. -/
def emphasized (line : List Char) : List Char :=
  "\x1b[1m".toList ++ line ++ "\x1b[0m".toList

/-- The line below a table. -/
def footerText (rows : Nat) : String :=
  if rows == 1 then "(1 row)" else "(" ++ Cell.wholeText rows ++ " rows)"

/-- Lines, each with a line end. -/
def unlines (lines : List (List Char)) : List Char :=
  lines.flatMap fun line => line ++ ['\n']

/-- A table with its title and footer and an empty line after it. -/
def tableText (bold : Bool) (grid : Grid) (o : Options) : List Char :=
  let rows := squared <|
    grid.headers.map blockOf ::
      grid.rows.map fun row => row.map fun c => blockOf (c.display o.nullText)
  let widths := columnWidths rows
  let title :=
    match o.title with
    | some title =>
      let line := centred (max (totalWidth o.border widths) title.utf8ByteSize) title
      [if bold then emphasized line else line]
    | none => []
  unlines title ++ List.intercalate ['\n'] (tableLines o.border widths rows) ++ ['\n'] ++
    (if o.footer then unlines [(footerText grid.rows.length).toList] else []) ++ ['\n']

end Layout

end CatalogReport
