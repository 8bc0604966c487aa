import CatalogReport.Failure

/-!
# Options of a report

How a table is set. Options are given by key and value; a key that is not one of ours is kept as it
is, and a value that an option does not know changes nothing.
-/

namespace CatalogReport

/-- The rules around and between the cells of a table. -/
inductive Border where
  /-- None at all. -/
  | plain
  /-- Between columns and below the header. -/
  | psql
  /-- All around, with round corners. -/
  | rounded
  deriving DecidableEq, Repr

namespace Border

def ofName? (name : String) : Option Border :=
  if ["0", "plain", "none"].contains name then some .plain
  else if ["1", "psql"].contains name then some .psql
  else if ["2", "rounded", "box"].contains name then some .rounded
  else none

def label : Border → String
  | .plain => "Plain"
  | .psql => "Psql"
  | .rounded => "Rounded"

end Border

/-- The words for on and off, ASCII case aside. -/
def toggle? (word : String) : Option Bool :=
  let lower := word.map Char.toLower
  if ["on", "true", "yes", "1"].contains lower then some true
  else if ["off", "false", "no", "0"].contains lower then some false
  else none

structure Options where
  title : Option String := none
  /-- Whether a line with the number of rows follows a table. -/
  footer : Bool := true
  /-- What stands in a cell without a value. -/
  nullText : String := ""
  border : Border := .psql
  /-- Options that no encoder here looks at. -/
  extra : SortedMap String String := []
  deriving DecidableEq, Repr

namespace Options

/-- The options with one of them set. An empty title is none. -/
def set (o : Options) (key value : String) : Except Failure Options :=
  if key = "title" then .ok { o with title := if value.isEmpty then none else some value }
  else if key = "footer" then
    match toggle? value with
    | some footer => .ok { o with footer := footer }
    | none => .error (.invalidOption key value)
  else if key = "null" then .ok { o with nullText := value }
  else if key = "border" then
    match Border.ofName? value with
    | some border => .ok { o with border := border }
    | none => .error (.invalidOption key value)
  else .ok { o with extra := o.extra.put key value }

def setAll (o : Options) : List (String × String) → Except Failure Options
  | [] => .ok o
  | (key, value) :: rest => do
    let o ← o.set key value
    o.setAll rest

def ofPairs (pairs : List (String × String)) : Except Failure Options :=
  ({} : Options).setAll pairs

def withTitle (o : Options) (title : String) : Options :=
  { o with title := some title }

def withoutFooter (o : Options) : Options :=
  { o with footer := false }

def flagText (b : Bool) : String :=
  if b then "true" else "false"

/-- The summary of options. -/
def summary (o : Options) : String :=
  Text.summary "RenderOptions" [
    ("title", match o.title with
      | some title => "Some(" ++ Text.quoted title ++ ")"
      | none => "None"),
    ("footer", flagText o.footer),
    ("null_display", Text.quoted o.nullText),
    ("border", o.border.label),
    ("extra", Text.braced (o.extra.map fun entry =>
      Text.quoted entry.1 ++ ": " ++ Text.quoted entry.2))]

end Options

end CatalogReport
