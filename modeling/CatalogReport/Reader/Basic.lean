import CatalogReport.Failure
import CatalogReport.Reader.Capabilities

/-!
# Readers

A reader answers queries about one catalog: rows of the kinds it offers, or a failure. It may keep a
state from one query to the next, such as the `Tally` of what it was asked. A reader can be limited
to some kinds, and it can be made to fail from some query on.
-/

namespace CatalogReport

/-- A reader of one catalog with states `σ`. It answers a query with rows alone: headers, a
projection, a predicate and a cursor are of the set that the rows are put into. -/
structure Reader (σ : Type) where
  driver : String
  offers : Capabilities
  ask : (k : Kind) → Filter → σ → Except Failure (List k.Row) × σ

/-- The kinds a reader was asked for, the last one first. -/
abbrev Tally := List Kind

/-- How many queries were for a kind. -/
def Tally.count (tally : Tally) (k : Kind) : Nat :=
  List.count k tally

namespace Reader

variable {σ : Type}

/-- The reader without some of its kinds. -/
def lacking (r : Reader σ) (kinds : Capabilities) : Reader σ :=
  { r with offers := r.offers.diff kinds }

/-- Queries for one kind that fail after the first ones. -/
structure Outage where
  after : Nat
  failure : Failure

/-- The reader with outages: a query that falls into one does not reach the reader. -/
def failing (r : Reader σ) (outage? : Kind → Option Outage) : Reader (σ × Tally) where
  driver := r.driver
  offers := r.offers
  ask k f state :=
    let (inner, tally) := state
    let later := k :: tally
    match outage? k with
    | some outage =>
      if outage.after ≤ Tally.count tally k then (.error outage.failure, (inner, later))
      else
        let (answer, inner) := r.ask k f inner
        (answer, (inner, later))
    | none =>
      let (answer, inner) := r.ask k f inner
      (answer, (inner, later))

/-- The reader with a record of its queries, the last one first. -/
def recording (r : Reader σ) : Reader (σ × List (Kind × Filter)) where
  driver := r.driver
  offers := r.offers
  ask k f state :=
    let (answer, inner) := r.ask k f state.1
    (answer, (inner, (k, f) :: state.2))

/-- The summary of a reader. -/
def summary (r : Reader σ) : String :=
  Text.summary "ReaderHandle"
    [("driver", Text.quoted r.driver), ("capabilities", r.offers.summary)]

end Reader

end CatalogReport
