import CatalogReport.Describe.Config

/-!
# Describing a catalog

What all commands share. Each command is about one kind of rows: it fails when that kind is not on
offer or declined, which is the same to it. Rows of other kinds only add to a report, and are left
out when they are not on offer or declined. Rows in system schemas are hidden unless they are asked
for.
-/

namespace CatalogReport

/-- What a command knows: who answers, what is on offer, and the configuration. -/
structure Describer where
  driver : String
  offers : Capabilities
  config : Config

namespace Describer

/-- The describer of the catalog behind a reader. -/
def ofReader {σ : Type} (r : Reader σ) (config : Config) : Describer :=
  ⟨r.driver, r.offers, config⟩

variable (d : Describer)

/-- The failure of a command whose kind cannot be had. -/
def absent (command : String) : Failure :=
  .capabilityAbsent command d.driver

/-- Fails unless a kind is on offer. -/
def require (command : String) (k : Kind) : Dialogue Unit :=
  if d.offers.has k then .done () else .fail (d.absent command)

/-- The rows that a command is about. -/
def primary (command : String) (k : Kind) (filter : Filter) (context : String) :
    Dialogue (List k.Row) := do
  d.require command k
  match ← Dialogue.query k filter with
  | .ok rows => .done rows
  | .error failure =>
    if failure.isNotSupported then .fail (d.absent command) else .fail (failure.within context)

/-- Rows that add to a report; none at all when the kind is not on offer or declined. -/
def optional (k : Kind) (filter : Filter) : Dialogue (Option (List k.Row)) :=
  if d.offers.has k then do
    match ← Dialogue.query k filter with
    | .ok rows => .done (some rows)
    | .error failure => if failure.isNotSupported then .done none else .fail failure
  else .done none

/-- Whether a row is shown. -/
def shows (showSystem : Bool) {k : Kind} (row : k.Row) : Bool :=
  showSystem || !d.config.isSystemSchema (Entity.schema row)

/-- The rows that are shown. -/
def visible (showSystem : Bool) {k : Kind} (rows : List k.Row) : List k.Row :=
  rows.filter (d.shows showSystem)

/-- The options of a table with this title. -/
def titled (title : String) : Options :=
  d.config.options.withTitle title

/-- Hands out a table. -/
def table (title : String) (headers : List String) (rows : List (List Cell)) : Dialogue Unit :=
  .put (.table ⟨headers, rows⟩ (d.titled title))

/-- Hands out a table under the headers of its kind. -/
def listing (title : String) {k : Kind} (rows : List k.Row) : Dialogue Unit :=
  d.table title (Entity.headers k.Row) (rows.map Entity.cells)

/-- Says that nothing was found. -/
def notFound (pattern : String) : Dialogue Unit :=
  .put (.lines ["Did not find any relation named \"" ++ pattern ++ "\"."])

/-- What is always shown, and what a verbose report shows after it. -/
def inDetail {α : Type} (verbose : Bool) (always more : List α) : List α :=
  if verbose then always ++ more else always

/-- A filter for the objects that a pattern names. -/
def matching (pattern : String) (showSystem : Bool) : Filter :=
  { Filter.ofPattern (.parse pattern) with withSystem := showSystem }

end Describer

end CatalogReport
