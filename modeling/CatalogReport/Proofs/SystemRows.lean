import CatalogReport.Proofs.AskedFilters
import CatalogReport.Proofs.Declined

/-!
# Rows of system schemas

A plain listing does not depend on the rows of system schemas. These are in the answers that it
gets, where a row hides later rows with its key, and are taken out only then. Since the key of a row
says which schema it is in, taking them out first would leave the same rows (`visible_select`), and
a dialogue that looks at an answer only through the rows that are shown runs alike with any two
readers whose shown rows are the same (`runsAlike_primary`, `runsAlike_optional`).
-/

namespace CatalogReport

/-! ## Rows that are left -/

namespace Entity

variable {α : Type} [Entity α]

theorem distinctFrom_cons_of_mem {seen : List (List String)} {row : α} (known : key row ∈ seen)
    (rows : List α) : distinctFrom seen (row :: rows) = distinctFrom seen rows :=
  if_pos (by simpa using known)

theorem distinctFrom_cons_of_not_mem {seen : List (List String)} {row : α} (known : key row ∉ seen)
    (rows : List α) :
    distinctFrom seen (row :: rows) = row :: distinctFrom (key row :: seen) rows :=
  if_neg (by simpa using known)

theorem distinctFrom_congr {seen seen' : List (List String)} {rows : List α}
    (h : ∀ row ∈ rows, key row ∈ seen ↔ key row ∈ seen') :
    distinctFrom seen rows = distinctFrom seen' rows := by
  induction rows generalizing seen seen' with
  | nil => rfl
  | cons row rows ih =>
    have first := h row List.mem_cons_self
    have rest := fun other listed => h other (List.mem_cons_of_mem row listed)
    by_cases known : key row ∈ seen
    · rw [distinctFrom_cons_of_mem known, distinctFrom_cons_of_mem (first.1 known), ih rest]
    · have unknown : key row ∉ seen' := fun known' => known (first.2 known')
      rw [distinctFrom_cons_of_not_mem known, distinctFrom_cons_of_not_mem unknown]
      refine congrArg _ (ih fun other listed => ?_)
      rw [List.mem_cons, List.mem_cons, rest other listed]

/-- Rows can be taken out before or after those that repeat a key, if the key decides which are. -/
theorem filter_distinctFrom {keeps : α → Bool} (decides : ∀ a b, key a = key b → keeps a = keeps b)
    (seen : List (List String)) (rows : List α) :
    (distinctFrom seen rows).filter keeps = distinctFrom seen (rows.filter keeps) := by
  induction rows generalizing seen with
  | nil => rfl
  | cons row rows ih =>
    by_cases known : key row ∈ seen
    · rw [distinctFrom_cons_of_mem known, ih]
      by_cases kept : keeps row = true
      · rw [List.filter_cons_of_pos kept, distinctFrom_cons_of_mem known]
      · rw [List.filter_cons_of_neg kept]
    · rw [distinctFrom_cons_of_not_mem known]
      by_cases kept : keeps row = true
      · rw [List.filter_cons_of_pos kept, List.filter_cons_of_pos kept,
          distinctFrom_cons_of_not_mem known, ih]
      · -- The row is taken out, and no row that is kept has its key.
        rw [List.filter_cons_of_neg kept, List.filter_cons_of_neg kept, ih]
        refine distinctFrom_congr fun other listed => ?_
        have differs : key other ≠ key row := fun e =>
          kept ((decides other row e).symm.trans (List.mem_filter.1 listed).2)
        simp [differs]

end Entity

theorem Kind.schema_eq_of_key_eq {k : Kind} {a b : k.Row} (h : Entity.key a = Entity.key b) :
    Entity.schema a = Entity.schema b := by
  -- The key begins with the catalog and the schema, but for catalogs, which are in none.
  cases k <;> first | rfl | (injection h with _ rest; injection rest)

/-- The snapshots differ only in rows of system schemas, and only in these kinds. -/
structure Snapshot.SameShown (config : Config) (kinds : List Kind) (s s' : Snapshot) : Prop where
  driver : s.driver = s'.driver
  others : ∀ k, k ∉ kinds → s.rows k = s'.rows k
  shown : ∀ k ∈ kinds,
    (s.rows k).filter (fun row => !config.isSystemSchema (Entity.schema row)) =
      (s'.rows k).filter fun row => !config.isSystemSchema (Entity.schema row)

namespace Describer

variable (d : Describer) {k : Kind}

/-- The rows that are shown of an answer are an answer of the rows that are shown. -/
theorem visible_select (s : Snapshot) (f : Filter) (unplaced : k.position = none) :
    d.visible false (s.select k f) =
      Entity.distinct ((d.visible false (s.rows k)).filter (f.accepts k)) := by
  have decides : ∀ a b : k.Row,
      Entity.key a = Entity.key b → d.shows false a = d.shows false b := by
    intro a b e
    unfold shows
    rw [Kind.schema_eq_of_key_eq e]
  have order :
      k.inPosition ((s.rows k).filter (f.accepts k)) = (s.rows k).filter (f.accepts k) := by
    unfold Kind.inPosition
    rw [unplaced]
  unfold visible Snapshot.select Entity.distinct
  rw [order, Entity.filter_distinctFrom decides, List.filter_filter, List.filter_filter]
  exact congrArg _ (List.filter_congr fun row _ => Bool.and_comm _ _)

theorem visible_select_congr {s s' : Snapshot} {kinds : List Kind}
    (same : s.SameShown d.config kinds s') (listed : k ∈ kinds) (unplaced : k.position = none)
    (f : Filter) : d.visible false (s.select k f) = d.visible false (s'.select k f) := by
  have shown : d.visible false (s.rows k) = d.visible false (s'.rows k) := same.shown k listed
  rw [visible_select d s f unplaced, visible_select d s' f unplaced, shown]

end Describer

/-! ## Runs -/

namespace Dialogue

variable {α β σ : Type} {offers declined : Capabilities} {s s' : Snapshot}

def RunsAlike (offers declined : Capabilities) (s s' : Snapshot) (d : Dialogue α) : Prop :=
  ∀ encoder tally sink, d.run (s.reader offers declined) encoder tally sink =
    d.run (s'.reader offers declined) encoder tally sink

theorem runsAlike_done (value : α) : (done value).RunsAlike offers declined s s' :=
  fun _ _ _ => rfl

theorem runsAlike_fail (failure : Failure) :
    (fail failure : Dialogue α).RunsAlike offers declined s s' :=
  fun _ _ _ => rfl

/-- Questions that are answered alike. -/
theorem AsksOnly.runsAlike {d : Dialogue α}
    (h : d.AsksOnly fun k f => s.answer declined k f = s'.answer declined k f) :
    d.RunsAlike offers declined s s' := by
  intro encoder tally sink
  induction d generalizing tally sink with
  | done value => rfl
  | fail failure => rfl
  | ask k filter next ih =>
    show (next (s.answer declined k filter)).run _ encoder (k :: tally) sink =
      (next (s'.answer declined k filter)).run _ encoder (k :: tally) sink
    rw [h.1]
    exact ih _ (h.2 _) _ _
  | hand document next ih =>
    unfold run
    cases sink.put (encoder.encode document) with
    | ok sink => exact ih _ (h _) _ _
    | error failure => exact ih _ (h _) _ _

theorem RunsAlike.bind {d : Dialogue α} {f : α → Dialogue β} (h : d.RunsAlike offers declined s s')
    (hf : ∀ value, (f value).RunsAlike offers declined s s') :
    (d >>= f).RunsAlike offers declined s s' := by
  intro encoder tally sink
  rw [bind_eq, run_andThen, run_andThen, h encoder tally sink]
  split
  · exact hf _ _ _ _
  · rfl

/-- A question whose answers may differ, as long as it does not matter which of them comes. -/
theorem runsAlike_ask {k : Kind} {f : Filter} {next : Except Failure (List k.Row) → Dialogue α}
    (same : next (.ok (s.select k f)) = next (.ok (s'.select k f)))
    (alike : ∀ answer, (next answer).RunsAlike offers declined s s') :
    (ask k f next).RunsAlike offers declined s s' := by
  intro encoder tally sink
  show (next (s.answer declined k f)).run _ encoder (k :: tally) sink =
    (next (s'.answer declined k f)).run _ encoder (k :: tally) sink
  have answered : next (s.answer declined k f) = next (s'.answer declined k f) := by
    unfold Snapshot.answer
    split
    · rfl
    · exact same
  rw [answered]
  exact alike _ _ _ _

end Dialogue

/-! ## Parts of listings -/

open Dialogue (AsksOnly RunsAlike asksOnly_done asksOnly_put asksOnly_mapM
  asksOnly_forM runsAlike_ask runsAlike_done runsAlike_fail)
open CatalogReport.Filter (NamesParts)

theorem Snapshot.SameShown.answer_eq {config : Config} {kinds : List Kind} {s s' : Snapshot}
    (same : s.SameShown config kinds s') {k : Kind} (h : k ∉ kinds) (declined : Capabilities)
    (f : Filter) : s.answer declined k f = s'.answer declined k f := by
  unfold Snapshot.answer Snapshot.select
  rw [same.others k h]

/-- The kinds of which a plain listing shows no system rows. -/
def Kind.listed : List Kind :=
  [.schemas, .tables, .sequences, .functions, .privilegeSummaries]

theorem Filter.NamesParts.not_mem_listed {k : Kind} {f : Filter} (h : NamesParts k f) :
    k ∉ Kind.listed := by
  cases h <;> decide

namespace Describer

variable (d : Describer) {s s' : Snapshot} {kinds : List Kind} {offers declined : Capabilities}
  {k : Kind} {α : Type}

theorem runsAlike_primary (same : s.SameShown d.config kinds s') (listed : k ∈ kinds)
    (unplaced : k.position = none) (command context : String) (filter : Filter)
    {g : List k.Row → Dialogue α}
    (hg : ∀ rows, (g rows).RunsAlike offers declined s s') :
    (d.primary command k filter context >>= fun rows => g (d.visible false rows)).RunsAlike
      offers declined s s' := by
  unfold primary require
  split
  · refine runsAlike_ask ?_ fun answer => ?_
    · exact congrArg g (d.visible_select_congr same listed unplaced filter)
    · cases answer with
      | ok rows => exact hg _
      | error failure =>
        show RunsAlike _ _ _ _ ((if failure.isNotSupported then _ else _ : Dialogue _).andThen _)
        split <;> exact runsAlike_fail _
  · exact runsAlike_fail _

theorem runsAlike_optional (same : s.SameShown d.config kinds s') (listed : k ∈ kinds)
    (unplaced : k.position = none) (context : String) (filter : Filter)
    {g : Option (List k.Row) → Dialogue α}
    (sees : ∀ rows rows', d.visible false rows = d.visible false rows' →
      g (some rows) = g (some rows'))
    (hg : ∀ rows?, (g rows?).RunsAlike offers declined s s') :
    ((d.optional k filter).within context >>= g).RunsAlike offers declined s s' := by
  unfold optional
  split
  · refine runsAlike_ask ?_ fun answer => ?_
    · exact sees _ _ (d.visible_select_congr same listed unplaced filter)
    · cases answer with
      | ok rows => exact hg _
      | error failure =>
        show RunsAlike _ _ _ _
          (((if failure.isNotSupported then _ else _ : Dialogue _).within context).andThen g)
        split
        · exact hg none
        · exact runsAlike_fail _
  · exact hg none

/-! ## Listings -/

/-- What asks for nothing that the snapshots differ in. -/
theorem runsAlike_others (same : s.SameShown d.config kinds s') {x : Dialogue α}
    (h : x.AsksOnly fun k _ => k ∉ kinds) :
    x.RunsAlike offers declined s s' :=
  (h.mono fun _ f other => same.answer_eq other declined f).runsAlike

theorem runsAlike_listSchemas (same : s.SameShown d.config Kind.listed s') (pattern : String) :
    (d.listSchemas pattern false).RunsAlike offers declined s s' :=
  d.runsAlike_primary same (by decide) rfl _ _ _ fun _ => d.runsAlike_others same (asksOnly_put _)

theorem runsAlike_listTables (same : s.SameShown d.config Kind.listed s') (codes pattern : String)
    (verbose : Bool) :
    (d.listTables codes pattern verbose false).RunsAlike offers declined s s' :=
  d.runsAlike_primary same (by decide) rfl _ _ _ fun rows =>
    d.runsAlike_others same (d.asksOnly_tableOrNotFound rows.isEmpty pattern _ _ _)

theorem runsAlike_listIndexes (same : s.SameShown d.config (.indexes :: Kind.listed) s')
    (pattern : String) (verbose : Bool) :
    (d.listIndexes pattern verbose false).RunsAlike offers declined s s' :=
  d.runsAlike_primary same (by decide) rfl _ _ _ fun rows =>
    d.runsAlike_others same (d.asksOnly_tableOrNotFound rows.isEmpty pattern _ _ _)

theorem runsAlike_listPrivileges (same : s.SameShown d.config Kind.listed s') (pattern : String) :
    (d.listPrivileges pattern false).RunsAlike offers declined s s' :=
  d.runsAlike_primary same (by decide) rfl _ _ _ fun _ => d.runsAlike_others same (asksOnly_put _)

theorem runsAlike_listFunctions (same : s.SameShown d.config Kind.listed s')
    (codes pattern : String) (verbose : Bool) :
    (d.listFunctions codes pattern verbose false).RunsAlike offers declined s s' := by
  let lists (rows : List Function) : Dialogue Unit := do
    let rows ← rows.mapM d.withArguments
    d.table "List of functions" (functionHeaders verbose) (rows.map (functionCells verbose))
  refine d.runsAlike_primary (k := .functions) (g := lists) same (by decide) rfl _ _ _ fun rows =>
    d.runsAlike_others same ?_
  refine (asksOnly_mapM (fun f => ?_) rows).bind fun _ => asksOnly_put _
  exact (d.asksOnly_withArguments f).mono fun _ _ part => part.not_mem_listed

theorem runsAlike_describeTables (same : s.SameShown d.config Kind.listed s') (filter : Filter)
    (verbose : Bool) :
    (d.describeTables filter verbose false).RunsAlike offers declined s s' := by
  unfold describeTables
  split
  · refine d.runsAlike_optional same (by decide) rfl _ _ (fun rows rows' e => ?_) fun rows? => ?_
    · dsimp only
      rw [e]
    · refine d.runsAlike_others same ?_
      cases rows? with
      | none => exact asksOnly_done _
      | some tables =>
        refine (asksOnly_mapM (fun t => ?_) _).bind fun _ => asksOnly_done _
        exact ((d.asksOnly_describeTable verbose t).mono fun _ _ part =>
          part.not_mem_listed).within _
  · exact runsAlike_done _

theorem runsAlike_describeSequences (same : s.SameShown d.config Kind.listed s') (filter : Filter)
    (context : String) :
    ((d.describeSequences filter false).within context).RunsAlike offers declined s s' := by
  unfold describeSequences
  rw [Dialogue.bind_eq, Dialogue.within_andThen]
  refine d.runsAlike_optional same (by decide) rfl _ _ (fun rows rows' e => ?_) fun rows? => ?_
  · dsimp only
    rw [e]
  · refine d.runsAlike_others same ?_
    cases rows? with
    | none => exact asksOnly_done _
    | some sequences =>
      exact ((asksOnly_forM (fun _ => asksOnly_put _) _).bind fun _ => asksOnly_done _).within _

theorem runsAlike_describeRelations (same : s.SameShown d.config Kind.listed s') (pattern : String)
    (verbose : Bool) :
    (d.describeRelations pattern verbose false).RunsAlike offers declined s s' := by
  refine (d.runsAlike_describeTables same _ verbose).bind fun tables => ?_
  refine (d.runsAlike_describeSequences same _ _).bind fun sequences => ?_
  refine d.runsAlike_others same ?_
  refine (d.asksOnly_describeIndexes (by decide) (fun _ _ part => part.not_mem_listed) _ _).bind
    fun indexes => ?_
  split
  · exact asksOnly_done _
  · exact asksOnly_put _

end Describer

namespace MetaCommand

/-- The listings without system rows, with the kinds whose system rows make no difference to them.
Indexes are not among these for describing relations, which asks for all indexes of a table. -/
inductive PlainListing : MetaCommand → List Kind → Prop where
  | listSchemas (pattern : String) (verbose : Bool) :
    PlainListing (.listSchemas pattern verbose false) Kind.listed
  | listTables (codes pattern : String) (verbose : Bool) :
    PlainListing (.listTables codes pattern verbose false) Kind.listed
  | listPrivileges (pattern : String) : PlainListing (.listPrivileges pattern false) Kind.listed
  | listFunctions (codes pattern : String) (verbose : Bool) :
    PlainListing (.listFunctions codes pattern verbose false) Kind.listed
  | describeRelations (pattern : String) (verbose : Bool) :
    PlainListing (.describeRelations pattern verbose false) Kind.listed
  | listIndexes (pattern : String) (verbose : Bool) :
    PlainListing (.listIndexes pattern verbose false) (.indexes :: Kind.listed)

/-- A plain listing of two snapshots that differ only in system rows is one run: the outcome, the
text and the queries are the same. -/
theorem runOn_sameShown {c : MetaCommand} {kinds : List Kind} (plain : c.PlainListing kinds)
    {s s' : Snapshot} {config : Config} (same : s.SameShown config kinds s')
    (offers declined : Capabilities) (encoder : Encoder) (tally : Tally) (sink : Sink) :
    c.runOn (s.reader offers declined) config encoder tally sink =
      c.runOn (s'.reader offers declined) config encoder tally sink := by
  have driver : Describer.ofReader (s'.reader offers declined) config =
      Describer.ofReader (s.reader offers declined) config := by
    unfold Describer.ofReader Snapshot.reader Snapshot.driverName
    rw [same.driver]
  unfold runOn
  rw [driver]
  let d := Describer.ofReader (s.reader offers declined) config
  cases plain with
  | listSchemas pattern verbose => exact d.runsAlike_listSchemas same pattern _ _ _
  | listTables codes pattern verbose =>
    exact d.runsAlike_listTables same codes pattern verbose _ _ _
  | listPrivileges pattern => exact d.runsAlike_listPrivileges same pattern _ _ _
  | listFunctions codes pattern verbose =>
    exact d.runsAlike_listFunctions same codes pattern verbose _ _ _
  | describeRelations pattern verbose =>
    exact d.runsAlike_describeRelations same pattern verbose _ _ _
  | listIndexes pattern verbose => exact d.runsAlike_listIndexes same pattern verbose _ _ _

/-- Two tables of one name in a system schema and a sequence there, before and between other
rows. -/
theorem runOn_sameShown_describeRelations :
    let s : Snapshot := {
      tables := [{ schema := "main", name := "hits" }, { schema := "main", name := "t" }] }
    let s' : Snapshot := {
        tables := [
          { schema := "information_schema", name := "hits" }, { schema := "main", name := "hits" },
          { schema := "information_schema", name := "hits", type := "VIEW" },
          { schema := "main", name := "t" }]
        sequences := [{ schema := "information_schema", name := "hits" }] }
    let c : MetaCommand := .describeRelations "hits" false false
    c.PlainListing Kind.listed ∧ s.SameShown {} Kind.listed s' ∧
      c.runOn (s.reader .all .none) {} .table [] {} =
        c.runOn (s'.reader .all .none) {} .table [] {} := by
  intro s s' c
  have plain : c.PlainListing Kind.listed := .describeRelations "hits" false
  have same : s.SameShown {} Kind.listed s' := by
    refine ⟨rfl, fun k other => ?_, fun k _ => ?_⟩
    · cases k <;> first | rfl | exact absurd other (by decide)
    · cases k <;> rfl
  exact ⟨plain, same, runOn_sameShown plain same .all .none .table [] {}⟩

end MetaCommand

end CatalogReport
