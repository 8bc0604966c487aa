import CatalogReport.Proofs.CommandParts
import CatalogReport.Proofs.DialogueRuns

/-!
# Commands are proper dialogues

A command asks only for kinds on offer, ends when a document is refused, and tests a failed query
for `notSupported` before anything else becomes of it.
-/

namespace CatalogReport

open Dialogue (Proper proper_done proper_put)

namespace Describer

variable (d : Describer)

theorem ne_notSupported {failure : Failure} (h : ¬failure.isNotSupported = true) :
    failure ≠ .notSupported := by
  rintro rfl
  exact h rfl

/-! ## Queries -/

theorem proper_require (command : String) (k : Kind) :
    (d.require command k).Proper d.offers := by
  unfold require
  split
  · exact proper_done ()
  · exact Failure.noConfusion

theorem proper_primary (command : String) (k : Kind) (filter : Filter) (context : String) :
    (d.primary command k filter context).Proper d.offers := by
  by_cases offered : d.offers.has k = true
  · simp only [primary, require, offered, if_true]
    refine ⟨offered, fun answer => ?_⟩
    cases answer with
    | ok rows => exact proper_done rows
    | error failure =>
      show Proper _ (if _ then _ else _)
      split
      · exact Failure.noConfusion
      · exact Failure.noConfusion
  · simp only [primary, require, offered]
    exact Failure.noConfusion

theorem proper_optional (k : Kind) (filter : Filter) :
    (d.optional k filter).Proper d.offers := by
  unfold optional
  split
  · rename_i offered
    refine ⟨offered, fun answer => ?_⟩
    cases answer with
    | ok rows => exact proper_done (some rows)
    | error failure =>
      show Proper _ (if _ then _ else _)
      split
      · exact proper_done none
      · rename_i other
        exact ne_notSupported other
  · exact proper_done none

/-- Being proper is a relation between dialogues that does not look at the second one. -/
theorem writes_proper : Writes d d.offers fun _ x _ => x.Proper d.offers where
  done := proper_done
  bind := Proper.bind
  within := Proper.within
  optional := fun k filter => (d.proper_optional k filter).within
  primary := d.proper_primary
  put := proper_put

/-! ## Commands -/

theorem proper_describeRelations (pattern : String) (verbose showSystem : Bool) :
    (d.describeRelations pattern verbose showSystem).Proper d.offers :=
  d.writes_proper.describeRelations pattern verbose showSystem
    (fun filter => d.writes_proper.describeTables filter verbose showSystem)
    fun filter name => d.writes_proper.describeIndexes filter name showSystem

end Describer

theorem MetaCommand.proper_dialogue (c : MetaCommand) (d : Describer)
    (h : ¬c.Overridden d.config) : (c.dialogue d).Proper d.offers :=
  d.writes_proper.dialogue_self c h (d.proper_require _ _)

end CatalogReport
