import CatalogReport.Proofs.DescribedRelations
import CatalogReport.Proofs.FunctionListing
import CatalogReport.Proofs.NamesAsPatterns

/-!
# Types behind letters

Relations and functions are listed by letters, and the filter gets the types behind these. With a
type behind one of the letters every row that is listed is of such a type (`lists_of_mem_select`).
But a filter without types asks for rows of any type, so letters with no type behind them list
everything (`restricts_select`).
-/

namespace CatalogReport

namespace TypeTable

variable {table : TypeTable} {codes : String}

/-- The type stands behind a letter that occurs in `codes`. -/
def Lists (table : TypeTable) (codes type : String) : Prop :=
  ∃ code types, (code, types) ∈ table ∧ code ∈ codes.toList ∧ type ∈ types

theorem mem_typesFor {type : String} : type ∈ table.typesFor codes ↔ table.Lists codes type := by
  unfold typesFor Lists
  simp only [List.mem_flatMap, List.mem_filter, List.contains_iff_mem, Prod.exists, and_assoc]

instance (table : TypeTable) (codes type : String) : Decidable (table.Lists codes type) :=
  decidable_of_iff _ mem_typesFor

theorem typesFor_eq_nil_iff : table.typesFor codes = [] ↔ ∀ type, ¬table.Lists codes type := by
  rw [List.eq_nil_iff_forall_not_mem]
  exact forall_congr' fun type => not_congr mem_typesFor

/-- Rows that are listed for letters, out of those that are listed for any type. They are of types
behind the letters just when there is such a type or no row is listed; else they are all rows. -/
structure Restricts {α : Type} (table : TypeTable) (codes : String) (type : α → String)
    (listed unrestricted : List α) : Prop where
  within : (∀ row ∈ listed, table.Lists codes (type row)) ↔
    (∃ type, table.Lists codes type) ∨ listed = []
  everything : (∀ type, ¬table.Lists codes type) → listed = unrestricted

end TypeTable

namespace Filter

def ofTypes (f : Filter) (table : TypeTable) (codes : String) : Filter :=
  { f with types := .ofList (table.typesFor codes) }

variable {table : TypeTable} {codes : String}

theorem acceptsType_ofTypes {f : Filter} {type : String}
    (h : (f.ofTypes table codes).acceptsType type = true)
    (some_type : ∃ type, table.Lists codes type) :
    table.Lists codes type := by
  obtain ⟨behind, listed⟩ := some_type
  have restricting : (f.ofTypes table codes).types.names ≠ [] :=
    List.ne_nil_of_mem (NameSet.mem_ofList.2 (TypeTable.mem_typesFor.2 listed))
  exact TypeTable.mem_typesFor.1 (NameSet.mem_ofList.1 (acceptsType_iff.1 h restricting))

end Filter

namespace Snapshot

variable (s : Snapshot) {table : TypeTable} {codes : String} {k : Kind}

theorem lists_of_mem_select {type : k.Row → String} (typed : k.typeOf = some type) {f : Filter}
    {row : k.Row} (listed : row ∈ s.select k (f.ofTypes table codes))
    (some_type : ∃ type, table.Lists codes type) : table.Lists codes (type row) := by
  have accepted := (s.mem_of_mem_select listed).2
  unfold Filter.accepts at accepted
  rw [Bool.and_eq_true, typed] at accepted
  exact Filter.acceptsType_ofTypes accepted.2 some_type

theorem restricts_select {type : k.Row → String} (typed : k.typeOf = some type) (f : Filter)
    (keeps : k.Row → Bool) :
    table.Restricts codes type ((s.select k (f.ofTypes table codes)).filter keeps)
      ((s.select k { f with types := .empty }).filter keeps) where
  within := by
    constructor
    · intro within
      cases left : (s.select k (f.ofTypes table codes)).filter keeps with
      | nil => exact .inr rfl
      | cons row rows => exact .inl ⟨_, within row (left ▸ List.mem_cons_self)⟩
    · rintro (some_type | nothing) row left
      · exact s.lists_of_mem_select typed (List.mem_filter.1 left).1 some_type
      · rw [nothing] at left
        cases left
  everything no_type := by
    unfold Filter.ofTypes
    rw [TypeTable.typesFor_eq_nil_iff.2 no_type]
    rfl

end Snapshot

namespace Describer

open Dialogue (tells_put)

variable (d : Describer) (s : Snapshot) (declined : Capabilities)

/-! ## Listings -/

def shownTables (filter : Filter) (showSystem : Bool) : List Table :=
  d.visible showSystem (s.select .tables filter)

def tableDocument (pattern : String) (verbose : Bool) (tables : List Table) : Document :=
  if tables.isEmpty then notFoundDocument pattern
  else .table ⟨tableHeaders verbose, tables.map (tableCells verbose)⟩ (d.titled "List of relations")

section

variable (codes pattern : String) (verbose showSystem : Bool)

theorem tells_listTables (h : d.serves declined .tables = true) :
    (d.listTables codes pattern verbose showSystem).Tells (s.answer declined) ()
      [d.tableDocument pattern verbose (d.shownTables s
        ((matching pattern showSystem).ofTypes d.config.tableTypes codes) showSystem)] := by
  have listed := d.answered_primary s declined "\\dt" .tables
    ((matching pattern showSystem).ofTypes d.config.tableTypes codes) "failed to list tables"
  rw [if_pos h] at listed
  refine (Dialogue.tells_of_answered listed).bind ?_
  unfold tableDocument shownTables
  dsimp only
  split
  · exact tells_put _
  · exact tells_put _

theorem answered_listTables_of_not_served (h : d.serves declined .tables = false) :
    (d.listTables codes pattern verbose showSystem).answered (s.answer declined) =
      .fail (d.absent "\\dt") := by
  have listed := d.answered_primary s declined "\\dt" .tables
    ((matching pattern showSystem).ofTypes d.config.tableTypes codes) "failed to list tables"
  rw [if_neg (by simp [h])] at listed
  exact Dialogue.answered_bind_of_fail listed _

end

theorem type_cells (verbose : Bool) (t : Table) (f : Function) :
    ((tableHeaders verbose)[1]? = some "Type" ∧ (tableCells verbose t)[1]? = some (.text t.type)) ∧
      (functionHeaders verbose)[4]? = some "Type" ∧
        (functionCells verbose f)[4]? = some (.text f.type) := by
  cases verbose <;> exact ⟨⟨rfl, rfl⟩, rfl, rfl⟩

/-- Every relation and every function that is listed is of a type behind one of the letters just
when there is a type behind one of them or nothing is listed. With no type behind the letters the
list has the rows of all types that the pattern names. -/
theorem run_listed_types (s : Snapshot) (offers declined : Capabilities) (config : Config)
    (codes pattern : String) (verbose showSystem : Bool) (encoder : Encoder) (tally : Tally)
    (sink : Sink) :
    let r := s.reader offers declined
    let d : Describer := .ofReader r config
    let ofAnyType := matching pattern showSystem
    (let run := (d.listTables codes pattern verbose showSystem).run r encoder tally sink
      let tables := d.shownTables s (ofAnyType.ofTypes config.tableTypes codes) showSystem
      (d.serves declined .tables = false →
        run.1 = .error (.capabilityAbsent "\\dt" s.driverName) ∧ run.2.2 = sink) ∧
      (d.serves declined .tables = true →
        (sink.limit = none → run.1 = .ok ()) ∧
        (run.1 = .ok () → run.2.2.text = sink.text ++ encoder.encode
          (if tables.isEmpty then notFoundDocument pattern
          else .table ⟨tableHeaders verbose, tables.map (tableCells verbose)⟩
            (config.options.withTitle "List of relations")))) ∧
      (∀ t, (tableHeaders verbose)[1]? = some "Type" ∧
        (tableCells verbose t)[1]? = some (.text t.type)) ∧
      config.tableTypes.Restricts codes (·.type) tables (d.shownTables s ofAnyType showSystem)) ∧
    (let run := (d.listFunctions codes pattern verbose showSystem).run r encoder tally sink
      let listed (filter : Filter) := d.shownFunctions showSystem (s.select .functions filter)
      let functions := listed (ofAnyType.ofTypes config.functionTypes codes)
      (d.serves declined .functions = false →
        run.1 = .error (.capabilityAbsent "\\df" s.driverName) ∧ run.2.2 = sink) ∧
      (d.serves declined .functions = true →
        (sink.limit = none → run.1 = .ok ()) ∧
        (run.1 = .ok () → run.2.2.text = sink.text ++ encoder.encode
          (.table ⟨functionHeaders verbose, functions.map fun f =>
            functionCells verbose (d.shownFunction s declined f)⟩
            (config.options.withTitle "List of functions")))) ∧
      (∀ f, (functionHeaders verbose)[4]? = some "Type" ∧
        (functionCells verbose (d.shownFunction s declined f))[4]? = some (.text f.type)) ∧
      config.functionTypes.Restricts codes (·.type) functions (listed ofAnyType)) := by
  intro r d ofAnyType
  have steady := s.steady_reader offers declined
  refine ⟨?_, ?_⟩
  · intro run tables
    refine ⟨fun missing => ?_, fun served => ?_, fun t => (type_cells verbose t {}).1,
      s.restricts_select (k := .tables) rfl ofAnyType (d.shows showSystem)⟩
    · exact Dialogue.run_of_answered_fail steady
        (d.answered_listTables_of_not_served s declined codes pattern verbose showSystem missing)
        encoder tally sink
    · exact (d.tells_listTables s declined codes pattern verbose showSystem served).run_document
        (d.writes_proper.listTables codes pattern verbose showSystem) steady encoder tally sink
  · intro run listed functions
    refine ⟨fun missing => ?_, fun served => ?_, fun f => (type_cells verbose {} _).2,
      s.restricts_select (k := .functions) rfl ofAnyType (d.showsFunction showSystem)⟩
    · exact Dialogue.run_of_answered_fail steady
        (d.answered_listFunctions_of_not_served s declined missing verbose) encoder tally sink
    · exact written_listFunctions s declined offers config codes pattern verbose showSystem encoder
        tally sink served

/-- A letter with no type behind it lists a table and a view; the letter of views lists views. -/
theorem run_listed_types_materialized :
    let config := ({} : Config).withTableTypes 'm' []
    let s : Snapshot := {
      tables := [{ name := "t", type := "TABLE" }, { name := "v", type := "VIEW" }] }
    let r := s.reader .all .none
    let d : Describer := .ofReader r config
    let listed (codes : String) :=
      d.shownTables s ((matching "" false).ofTypes config.tableTypes codes) false
    ((d.listTables "m" "" false false).run r .table [] {}).1 = .ok () ∧
      (¬∀ t ∈ listed "m", config.tableTypes.Lists "m" t.type) ∧
      listed "m" = d.shownTables s (matching "" false) false ∧
      ∀ t ∈ listed "v", config.tableTypes.Lists "v" t.type := by
  intro config s r d listed
  obtain ⟨⟨-, ends, -, mistaken⟩, -⟩ :=
    run_listed_types s .all .none config "m" "" false false .table [] {}
  obtain ⟨⟨-, -, -, views⟩, -⟩ :=
    run_listed_types s .all .none config "v" "" false false .table [] {}
  have no_type : ∀ type, ¬config.tableTypes.Lists "m" type :=
    TypeTable.typesFor_eq_nil_iff.1 (by decide +kernel)
  have everything := mistaken.everything no_type
  refine ⟨(ends rfl).1 rfl, fun within => ?_, everything, ?_⟩
  · rcases mistaken.within.1 within with ⟨type, behind⟩ | nothing
    · exact no_type type behind
    · exact absurd nothing (by decide +kernel)
  · exact views.within.2 (.inl ⟨"VIEW", by decide +kernel⟩)

end Describer

end CatalogReport
