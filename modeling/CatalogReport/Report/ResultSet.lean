import CatalogReport.Catalog.Entity
import CatalogReport.Report.Document

/-!
# Result sets

The rows of a query with a cursor. Rows are passed once, those that the predicate rejects are passed
over, and `reset` starts again at the first row. Closing a set drops its rows and runs its hook; a
set is closed once, at the latest when it is given up.
-/

namespace CatalogReport

structure ResultSet (α : Type) where
  rows : List α
  /-- The row that is looked at next. -/
  position : Nat := 0
  /-- The row that was reached last. -/
  current : Option Nat := none
  predicate : Option (α → Bool) := none
  headers : Option (List String) := none
  projection : Option (α → List Cell) := none
  /-- Whether a hook waits to be run. -/
  hook : Bool := false
  /-- How often a hook has run. -/
  hooksRun : Nat := 0
  closed : Bool := false

namespace ResultSet

variable {α : Type}

/-- A set of rows, the first of those with one key. -/
def ofRows [Entity α] (rows : List α) : ResultSet α where
  rows := Entity.distinct rows

def empty [Entity α] : ResultSet α :=
  ofRows []

def withHook (s : ResultSet α) : ResultSet α :=
  { s with hook := true }

/-- Whether the predicate of the set accepts a row. -/
def accepts (s : ResultSet α) (row : α) : Bool :=
  match s.predicate with
  | some accepted => accepted row
  | none => true

/-- The first accepted row among `rows`, the row at the head being number `n`. -/
def findFrom (accepted : α → Bool) (n : Nat) : List α → Option Nat
  | [] => none
  | row :: rest => if accepted row then some n else findFrom accepted (n + 1) rest

/-- Goes to the next accepted row. -/
def next (s : ResultSet α) : Bool × ResultSet α :=
  if s.closed then (false, s)
  else
    match findFrom s.accepts s.position (s.rows.drop s.position) with
    | some n => (true, { s with position := n + 1, current := some n })
    | none => (false, { s with position := max s.position s.rows.length, current := none })

def get? (s : ResultSet α) : Option α :=
  s.current.bind fun n => s.rows[n]?

/-- Writes over the row that the set is at; `false` when it is at none. -/
def overwrite (s : ResultSet α) (row : α) : Bool × ResultSet α :=
  match s.current with
  | some n => if n < s.rows.length then (true, { s with rows := s.rows.set n row }) else (false, s)
  | none => (false, s)

/-- The number of accepted rows, wherever the cursor is. -/
def length (s : ResultSet α) : Nat :=
  (s.rows.filter s.accepts).length

def isEmpty (s : ResultSet α) : Bool :=
  s.length == 0

def setPredicate (s : ResultSet α) (accepted : α → Bool) : ResultSet α :=
  { s with predicate := some accepted }

def setHeaders (s : ResultSet α) (headers : List String) : ResultSet α :=
  { s with headers := some headers }

def setProjection (s : ResultSet α) (cells : α → List Cell) : ResultSet α :=
  { s with projection := some cells }

def reset (s : ResultSet α) : ResultSet α :=
  { s with position := 0, current := none }

def close (s : ResultSet α) : ResultSet α :=
  if s.closed then s
  else
    { s with
      closed := true
      rows := []
      current := none
      hook := false
      hooksRun := s.hooksRun + if s.hook then 1 else 0 }

/-- The accepted rows from the cursor on. -/
def remaining (s : ResultSet α) : List α :=
  if s.closed then [] else (s.rows.drop s.position).filter s.accepts

/-- The set after all rows are passed. -/
def exhausted (s : ResultSet α) : ResultSet α :=
  if s.closed then s
  else { s with position := max s.position s.rows.length, current := none }

variable [Entity α]

def shownHeaders (s : ResultSet α) : List String :=
  s.headers.getD (Entity.headers α)

/-- The cells of a row. -/
def project (s : ResultSet α) (row : α) : List Cell :=
  match s.projection with
  | some cells => cells row
  | none => Entity.cells row

/-- Goes to the next row and gives its cells. -/
def nextRow (s : ResultSet α) : Option (List Cell) × ResultSet α :=
  match s.next with
  | (true, s) => (s.get?.map s.project, s)
  | (false, s) => (none, s)

/-- The remaining rows as a grid, and the set after them. -/
def grid (s : ResultSet α) : Grid × ResultSet α :=
  (⟨s.shownHeaders, s.remaining.map s.project⟩, s.exhausted)

/-- The summary of a set. -/
def summary (s : ResultSet α) : String :=
  Text.summary "ResultSet" [
    ("kind", Text.quoted (Entity.noun α)),
    ("rows", Cell.wholeText s.rows.length),
    ("position", Cell.wholeText s.position),
    ("filtered", Options.flagText s.predicate.isSome),
    ("closed", Options.flagText s.closed)]

end ResultSet

end CatalogReport
