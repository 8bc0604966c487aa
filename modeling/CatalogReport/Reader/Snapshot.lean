import CatalogReport.Catalog.Snapshot
import CatalogReport.Reader.Basic

/-!
# The reader of a snapshot

It answers from the rows of the snapshot and counts its queries. Kinds that it declines are offered
all the same; their queries count and are answered with `notSupported`.
-/

namespace CatalogReport.Snapshot

/-- The answer to a filter. -/
def answer (s : Snapshot) (declined : Capabilities) (k : Kind) (f : Filter) :
    Except Failure (List k.Row) :=
  if declined.has k then .error .notSupported else .ok (s.select k f)

/-- The reader of a snapshot. -/
def reader (s : Snapshot) (offers declined : Capabilities) : Reader Tally where
  driver := s.driverName
  offers := offers
  ask k f tally := (s.answer declined k f, k :: tally)

end CatalogReport.Snapshot
