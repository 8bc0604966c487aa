import CatalogReport.Proofs.CommandParts
import CatalogReport.Proofs.DialogueRuns

/-!
# What the reader of a snapshot serves

A kind is served when it is on offer and not declined. Rows that only add to a report are those of
the snapshot if their kind is served and missing otherwise; rows that a command is about are missed
with a failure.
-/

namespace CatalogReport.Describer

variable (d : Describer) (s : Snapshot) (declined : Capabilities)

def serves (k : Kind) : Bool :=
  d.offers.has k && !declined.has k

def served (k : Kind) (filter : Filter) : Option (List k.Row) :=
  if d.serves declined k then some (s.select k filter) else none

theorem require_of_offered (command : String) {k : Kind} (h : d.offers.has k = true) :
    d.require command k = .done () := by
  unfold require
  rw [if_pos h]

theorem require_of_not_offered (command : String) {k : Kind} (h : ¬d.offers.has k = true) :
    d.require command k = .fail (d.absent command) := by
  unfold require
  rw [if_neg h]

theorem answered_optional (k : Kind) (filter : Filter) :
    (d.optional k filter).answered (s.answer declined) = .done (d.served s declined k filter) := by
  unfold optional served serves
  cases offered : d.offers.has k with
  | false => simp [Dialogue.answered]
  | true =>
    cases refused : declined.has k <;>
      simp [Dialogue.query, Dialogue.andThen, Dialogue.answered, Snapshot.answer, refused,
        Failure.isNotSupported]

theorem answered_primary (command : String) (k : Kind) (filter : Filter) (context : String) :
    (d.primary command k filter context).answered (s.answer declined) =
      if d.serves declined k then .done (s.select k filter) else .fail (d.absent command) := by
  unfold primary require serves
  cases offered : d.offers.has k with
  | false => simp [Dialogue.andThen, Dialogue.answered]
  | true =>
    cases refused : declined.has k <;>
      simp [Dialogue.query, Dialogue.andThen, Dialogue.answered, Snapshot.answer, refused,
        Failure.isNotSupported]

theorem quiet_optional (k : Kind) (filter : Filter) :
    (d.optional k filter).Quiet (s.answer declined) :=
  ⟨_, d.answered_optional s declined k filter⟩

theorem asks_quietly : Asks d d.offers fun _ x _ => x.Quiet (s.answer declined) where
  done := Dialogue.quiet_done
  bind := Dialogue.Quiet.bind
  within := Dialogue.Quiet.within
  optional := fun k filter => (d.quiet_optional s declined k filter).within

end CatalogReport.Describer
