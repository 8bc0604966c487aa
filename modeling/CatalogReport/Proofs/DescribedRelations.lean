import CatalogReport.Proofs.ProperCommands
import CatalogReport.Proofs.Served

/-!
# What describing relations writes

A run that describes the relations behind a pattern writes a report for every table, sequence and
index that it describes (`reports`), and the line that says that nothing was found when nothing was
matched. An index is matched even if its columns are declined or it has none, and then it has no
report. So there is a third case: nothing is written at all when only such indexes were matched.
-/

namespace CatalogReport

open Dialogue (Tells tells_put)

namespace Describer

variable (d : Describer) (s : Snapshot) (declined : Capabilities)

/-! ## Rows that are described -/

/-- The rows of a kind that a filter accepts and that are shown; none when the kind is not
served. -/
def shownRows (k : Kind) (filter : Filter) (showSystem : Bool) : List k.Row :=
  d.visible showSystem ((d.served s declined k filter).getD [])

/-- The tables that are described: their columns must be served, too. -/
def describedTables (filter : Filter) (showSystem : Bool) : List Table :=
  if d.serves declined .columns then d.shownRows s declined .tables filter showSystem else []

def describedSequences (filter : Filter) (showSystem : Bool) : List Sequence :=
  d.shownRows s declined .sequences filter showSystem

/-- The indexes that count as found; it is enough for them that index columns are on offer. -/
def matchedIndexes (filter : Filter) (showSystem : Bool) : List Index :=
  if d.offers.has .indexColumns then d.shownRows s declined .indexes filter showSystem else []

def columnsOf (i : Index) : List IndexColumn :=
  (d.served s declined .indexColumns (indexColumnsAnywhere i)).getD []

/-- The indexes that are described: those that have columns. -/
def describedIndexes (filter : Filter) (showSystem : Bool) : List Index :=
  (d.matchedIndexes s declined filter showSystem).filter fun i =>
    !(d.columnsOf s declined i).isEmpty

theorem shownRows_eq_nil {k : Kind} (h : ¬d.serves declined k = true) (filter : Filter)
    (showSystem : Bool) : d.shownRows s declined k filter showSystem = [] := by
  unfold shownRows served
  rw [if_neg h]
  rfl

theorem describedTables_eq_nil (filter : Filter) (showSystem : Bool)
    (h : ¬(d.offers.has .tables && d.offers.has .columns) = true) :
    d.describedTables s declined filter showSystem = [] := by
  unfold describedTables
  split
  · rename_i columns
    apply d.shownRows_eq_nil s declined
    simp only [serves, Bool.and_eq_true] at columns h ⊢
    exact fun tables => h ⟨tables.1, columns.1⟩
  · rfl

theorem matchedIndexes_eq_nil (filter : Filter) (showSystem : Bool)
    (h : ¬(d.offers.has .indexes && d.offers.has .indexColumns) = true) :
    d.matchedIndexes s declined filter showSystem = [] := by
  unfold matchedIndexes
  split
  · rename_i columns
    apply d.shownRows_eq_nil s declined
    simp only [serves, Bool.and_eq_true] at h ⊢
    exact fun indexes => h ⟨indexes.1, columns⟩
  · rfl

/-! ## Reports -/

/-- A table under a title, and lines below it. -/
def IsReport (documents : List Document) : Prop :=
  ∃ grid options notes, documents = .table grid options :: notes ∧
    ∀ note ∈ notes, ∃ line lines, note = .lines (line :: lines)

def tableReport (verbose : Bool) (t : Table) : List Document :=
  (d.describeTable verbose t).told (s.answer declined)

def sequenceReport (sq : Sequence) : List Document :=
  [.table ⟨Entity.headers Sequence, [Entity.cells sq]⟩
    (d.titled ("Sequence " ++ qualifiedName sq.schema sq.name)).withoutFooter]

def indexReport (i : Index) : List Document :=
  [.table ⟨["Name", "Type"], (d.columnsOf s declined i).map fun c => [↑c.name, ↑c.dataType]⟩
    (d.titled ("Index " ++ qualifiedName i.schema i.name)), .lines [indexNote i]]

/-- The reports on the relations behind a filter, in the order they are written. -/
def reports (filter : Filter) (verbose showSystem : Bool) : List (List Document) :=
  (d.describedTables s declined filter showSystem).map (d.tableReport s declined verbose) ++
    (d.describedSequences s declined filter showSystem).map d.sequenceReport ++
    (d.describedIndexes s declined filter showSystem).map (d.indexReport s declined)

def notFoundDocument (pattern : String) : Document :=
  .lines ["Did not find any relation named \"" ++ pattern ++ "\"."]

/-! ## Tables -/

theorem tells_optional (k : Kind) (filter : Filter) :
    (d.optional k filter).Tells (s.answer declined) (d.served s declined k filter) [] :=
  Dialogue.tells_of_answered (d.answered_optional s declined k filter)

theorem describeTable_report (verbose : Bool) (t : Table)
    (h : d.serves declined .columns = true) :
    ∃ documents, (d.describeTable verbose t).Tells (s.answer declined) true documents ∧
      IsReport documents := by
  obtain ⟨summary, e⟩ := (d.asks_quietly s declined).tableSummary t.schema t.name
  have columns := (d.tells_optional s declined .columns (partsOf t.schema t.name)).within
    ("failed to list columns for table " ++ t.name)
  rw [served, if_pos h] at columns
  have summarized := Dialogue.tells_of_answered e
  cases summary with
  | nil =>
    refine ⟨_, columns.bind ((tells_put _).bind (summarized.bind (.done true))), ?_⟩
    exact ⟨_, _, [], rfl, by simp⟩
  | cons line lines =>
    refine ⟨_, columns.bind ((tells_put _).bind
      (summarized.bind ((tells_put (.lines (line :: lines))).bind (.done true)))), ?_⟩
    exact ⟨_, _, [.lines (line :: lines)], rfl, by simp⟩

theorem tells_describeTable (verbose : Bool) (t : Table)
    (h : d.serves declined .columns = true) :
    (d.describeTable verbose t).Tells (s.answer declined) true
      (d.tableReport s declined verbose t) := by
  obtain ⟨documents, tells, -⟩ := d.describeTable_report s declined verbose t h
  rw [tableReport, tells.told_eq]
  exact tells

theorem isReport_tableReport (verbose : Bool) (t : Table)
    (h : d.serves declined .columns = true) : IsReport (d.tableReport s declined verbose t) := by
  obtain ⟨documents, tells, report⟩ := d.describeTable_report s declined verbose t h
  rw [tableReport, tells.told_eq]
  exact report

theorem tells_describeTable_passed (verbose : Bool) (t : Table)
    (h : ¬d.serves declined .columns = true) :
    (d.describeTable verbose t).Tells (s.answer declined) false [] := by
  have columns := (d.tells_optional s declined .columns (partsOf t.schema t.name)).within
    ("failed to list columns for table " ++ t.name)
  rw [served, if_neg h] at columns
  exact columns.bind (.done false)

/-- With columns every table is described. -/
theorem tells_describeListed (verbose : Bool) (tables : List Table)
    (h : d.serves declined .columns = true) :
    (tables.mapM fun t => (d.describeTable verbose t).within
      ("failed to describe " ++ t.type ++ " " ++ t.schema ++ "." ++ t.name)).Tells
        (s.answer declined)
      (tables.map fun _ => true) (tables.flatMap (d.tableReport s declined verbose)) :=
  Tells.mapM (fun t => (d.tells_describeTable s declined verbose t h).within _) tables

theorem tells_describeListed_passed (verbose : Bool) (tables : List Table)
    (h : ¬d.serves declined .columns = true) :
    (tables.mapM fun t => (d.describeTable verbose t).within
      ("failed to describe " ++ t.type ++ " " ++ t.schema ++ "." ++ t.name)).Tells
        (s.answer declined)
      (tables.map fun _ => false) [] := by
  have passed := Tells.mapM (fun t =>
    (d.tells_describeTable_passed s declined verbose t h).within
      ("failed to describe " ++ t.type ++ " " ++ t.schema ++ "." ++ t.name)) tables
  rwa [List.flatMap_eq_nil_iff.2 fun _ _ => rfl] at passed

theorem tells_describeTables (filter : Filter) (verbose showSystem : Bool) :
    (d.describeTables filter verbose showSystem).Tells (s.answer declined)
      (!(d.describedTables s declined filter showSystem).isEmpty)
      ((d.describedTables s declined filter showSystem).flatMap
        (d.tableReport s declined verbose)) := by
  have listed := (d.tells_optional s declined .tables filter).within "failed to list tables"
  unfold describeTables
  split
  · refine listed.bind ?_
    unfold describedTables shownRows
    by_cases columns : d.serves declined .columns = true
    · rw [if_pos columns]
      cases d.served s declined .tables filter with
      | none => exact .done false
      | some tables =>
        refine (d.tells_describeListed s declined verbose _ columns).bind_quietly ?_
        have any : ((d.visible showSystem tables).map fun _ => true).any id =
            !(d.visible showSystem tables).isEmpty := by
          cases d.visible showSystem tables <;> rfl
        rw [any]
        exact .done _
    · rw [if_neg columns]
      cases d.served s declined .tables filter with
      | none => exact .done false
      | some tables =>
        refine (d.tells_describeListed_passed s declined verbose _ columns).bind ?_
        have any : ((d.visible showSystem tables).map fun _ => false).any id = false := by simp
        rw [any]
        exact .done false
  · rename_i offered
    rw [d.describedTables_eq_nil s declined filter showSystem offered]
    exact .done false

theorem tells_describeSequences (filter : Filter) (showSystem : Bool) :
    (d.describeSequences filter showSystem).Tells (s.answer declined)
      (!(d.describedSequences s declined filter showSystem).isEmpty)
      ((d.describedSequences s declined filter showSystem).flatMap d.sequenceReport) := by
  have listed := d.tells_optional s declined .sequences filter
  refine listed.bind ?_
  unfold describedSequences shownRows
  cases d.served s declined .sequences filter with
  | none => exact .done false
  | some sequences => exact (Tells.forM (fun sq => tells_put _) _).bind_quietly (.done _)

theorem tells_describeIndex (i : Index) :
    (d.describeIndex i).Tells (s.answer declined) ()
      (if (d.columnsOf s declined i).isEmpty then [] else d.indexReport s declined i) := by
  have listed := (d.tells_optional s declined .indexColumns (indexColumnsAnywhere i)).within
    "failed to get index columns"
  refine listed.bind ?_
  unfold indexReport columnsOf
  cases d.served s declined .indexColumns (indexColumnsAnywhere i) with
  | none => exact .done ()
  | some columns =>
    cases columns with
    | nil => exact .done ()
    | cons c columns => exact (tells_put _).bind (tells_put _)

theorem flatMap_describedIndexes (filter : Filter) (showSystem : Bool) :
    (d.describedIndexes s declined filter showSystem).flatMap (d.indexReport s declined) =
      (d.matchedIndexes s declined filter showSystem).flatMap fun i =>
        if (d.columnsOf s declined i).isEmpty then [] else d.indexReport s declined i := by
  unfold describedIndexes
  induction d.matchedIndexes s declined filter showSystem with
  | nil => rfl
  | cons i indexes ih =>
    rw [List.filter_cons, List.flatMap_cons, ← ih]
    cases (d.columnsOf s declined i).isEmpty <;> simp

theorem tells_describeIndexes (filter : Filter) (name : String) (showSystem : Bool) :
    (d.describeIndexes filter name showSystem).Tells (s.answer declined)
      (!(d.matchedIndexes s declined filter showSystem).isEmpty)
      ((d.describedIndexes s declined filter showSystem).flatMap (d.indexReport s declined)) := by
  have listed := (d.tells_optional s declined .indexes filter).within
    ("failed to list indexes for table " ++ name)
  rw [flatMap_describedIndexes]
  unfold describeIndexes
  split
  · rename_i offered
    rw [Bool.and_eq_true] at offered
    refine listed.bind ?_
    rw [matchedIndexes, if_pos offered.2, shownRows]
    cases d.served s declined .indexes filter with
    | none => exact .done false
    | some indexes =>
      refine (Tells.forM (fun i => ?_) _).bind_quietly (.done _)
      exact (d.tells_describeIndex s declined i).within _
  · rename_i offered
    rw [d.matchedIndexes_eq_nil s declined filter showSystem offered]
    exact .done false

/-! ## The whole description -/

theorem tells_notFound (pattern : String) :
    (notFound pattern).Tells (s.answer declined) () [notFoundDocument pattern] :=
  tells_put _

theorem flatten_reports (filter : Filter) (verbose showSystem : Bool) :
    (d.reports s declined filter verbose showSystem).flatten =
      (d.describedTables s declined filter showSystem).flatMap (d.tableReport s declined verbose) ++
        ((d.describedSequences s declined filter showSystem).flatMap d.sequenceReport ++
          (d.describedIndexes s declined filter showSystem).flatMap
            (d.indexReport s declined)) := by
  simp [reports, List.flatMap_def]

/-- An index with a report was matched. -/
theorem nothing_found_iff (filter : Filter) (verbose showSystem : Bool) :
    d.reports s declined filter verbose showSystem = [] ∧
        d.matchedIndexes s declined filter showSystem = [] ↔
      d.describedTables s declined filter showSystem = [] ∧
        d.describedSequences s declined filter showSystem = [] ∧
          d.matchedIndexes s declined filter showSystem = [] := by
  simp only [reports, List.append_eq_nil_iff, List.map_eq_nil_iff, and_assoc]
  constructor
  · rintro ⟨tables, sequences, -, indexes⟩
    exact ⟨tables, sequences, indexes⟩
  · rintro ⟨tables, sequences, indexes⟩
    have described : d.describedIndexes s declined filter showSystem = [] := by
      rw [describedIndexes, indexes]
      rfl
    exact ⟨tables, sequences, described, indexes⟩

/-- The reports, then the line that says that nothing was found if nothing was matched. -/
theorem tells_describeRelations (pattern : String) (verbose showSystem : Bool) :
    let filter := matching pattern showSystem
    (d.describeRelations pattern verbose showSystem).Tells (s.answer declined) ()
      ((d.reports s declined filter verbose showSystem).flatten ++
        if d.reports s declined filter verbose showSystem = [] ∧
          d.matchedIndexes s declined filter showSystem = [] then
          [notFoundDocument pattern] else []) := by
  intro filter
  simp only [nothing_found_iff, flatten_reports, List.append_assoc]
  refine (d.tells_describeTables s declined filter verbose showSystem).bind ?_
  refine ((d.tells_describeSequences s declined filter showSystem).within _).bind ?_
  refine (d.tells_describeIndexes s declined filter _ showSystem).bind ?_
  split
  · rename_i found
    rw [if_neg fun ⟨tables, sequences, indexes⟩ => by simp [tables, sequences, indexes] at found]
    exact .done ()
  · rename_i missed
    rw [if_pos (by simp_all)]
    exact tells_notFound s declined pattern

theorem isReport_of_mem_reports {filter : Filter} {verbose showSystem : Bool}
    {report : List Document} (h : report ∈ d.reports s declined filter verbose showSystem) :
    IsReport report := by
  unfold reports at h
  rcases List.mem_append.1 h with h | h
  · rcases List.mem_append.1 h with h | h
    · obtain ⟨t, ht, rfl⟩ := List.mem_map.1 h
      refine d.isReport_tableReport s declined verbose t ?_
      unfold describedTables at ht
      split at ht
      · assumption
      · cases ht
    · obtain ⟨sq, -, rfl⟩ := List.mem_map.1 h
      exact ⟨_, _, [], rfl, by simp⟩
  · obtain ⟨i, -, rfl⟩ := List.mem_map.1 h
    exact ⟨_, _, [.lines [indexNote i]], rfl, by simp⟩

end Describer

/-! ## Written text -/

/-- The text of documents one after the other. -/
def Encoder.encodeAll (encoder : Encoder) (documents : List Document) : String :=
  String.join (documents.map encoder.encode)

theorem Encoder.encode_table_ne (encoder : Encoder) (grid : Grid) (options : Options) :
    encoder.encode (.table grid options) ≠ "" := by
  rw [Ne, ← String.toList_eq_nil_iff]
  cases encoder with
  | table bold => simp [encode, Layout.tableText]
  | json style => simp [encode]

theorem Encoder.encode_line_ne (encoder : Encoder) (line : String) :
    encoder.encode (.lines [line]) ≠ "" := by
  rw [Ne, ← String.toList_eq_nil_iff]
  cases encoder with
  | table bold => simp [encode, Layout.unlines]
  | json style => simp [encode]

theorem Encoder.encodeAll_ne {encoder : Encoder} {document : Document}
    (h : encoder.encode document ≠ "") (documents : List Document) :
    encoder.encodeAll (document :: documents) ≠ "" := by
  unfold encodeAll
  intro e
  simp at e
  exact h e.1

namespace Describer

theorem encodeAll_eq_empty_iff (encoder : Encoder) {reports : List (List Document)}
    (each : ∀ report ∈ reports, IsReport report) (pattern : String) (P : Prop) [Decidable P] :
    encoder.encodeAll (reports.flatten ++
        if reports = [] ∧ P then [notFoundDocument pattern] else []) = "" ↔
      reports = [] ∧ ¬P := by
  cases reports with
  | nil =>
    by_cases matched : P
    · have line := Encoder.encodeAll_ne (encoder.encode_line_ne
        ("Did not find any relation named \"" ++ pattern ++ "\".")) []
      simpa [matched, notFoundDocument] using line
    · simp [matched, Encoder.encodeAll]
  | cons report reports =>
    obtain ⟨grid, options, notes, rfl, -⟩ := each report List.mem_cons_self
    have table := Encoder.encodeAll_ne (encoder.encode_table_ne grid options)
      (notes ++ reports.flatten)
    simpa using table

/-- A run on a sink without a limit ends well. A run that ends well has written the reports if there
are any, and the line that says that nothing was found if nothing was matched; it has written
nothing just when there is no report but an index was matched. -/
theorem run_describeRelations (s : Snapshot) (offers declined : Capabilities) (config : Config)
    (pattern : String) (verbose showSystem : Bool) (encoder : Encoder) (tally : Tally)
    (sink : Sink) :
    let d : Describer := .ofReader (s.reader offers declined) config
    let filter := matching pattern showSystem
    let reports := d.reports s declined filter verbose showSystem
    let indexes := d.matchedIndexes s declined filter showSystem
    let run := (d.describeRelations pattern verbose showSystem).run (s.reader offers declined)
      encoder tally sink
    (sink.limit = none → run.1 = .ok ()) ∧
      (run.1 = .ok () →
        (∀ report ∈ reports, IsReport report) ∧
        (reports ≠ [] → run.2.2.text = sink.text ++ encoder.encodeAll reports.flatten) ∧
        (reports = [] ∧ indexes = [] →
          run.2.2.text = sink.text ++ encoder.encodeAll [notFoundDocument pattern]) ∧
        (run.2.2.text = sink.text ↔ reports = [] ∧ indexes ≠ [])) := by
  intro d filter reports indexes run
  have proper := d.proper_describeRelations pattern verbose showSystem
  have tells := d.tells_describeRelations s declined pattern verbose showSystem
  have outcome := tells.run proper (s.steady_reader offers declined) encoder tally sink
  refine ⟨fun unlimited => ?_, fun ended => ?_⟩
  · rcases outcome with ⟨ok, -⟩ | ⟨limited, -⟩
    · exact ok
    · exact absurd unlimited limited
  · have written : run.2.2.text = sink.text ++ encoder.encodeAll (reports.flatten ++
        if reports = [] ∧ indexes = [] then [notFoundDocument pattern] else []) := by
      rcases outcome with ⟨-, written⟩ | ⟨-, failure, failed⟩
      · exact written
      · exact absurd (ended.symm.trans failed) (by simp)
    have each : ∀ report ∈ reports, IsReport report := fun report h =>
      d.isReport_of_mem_reports s declined h
    refine ⟨each, fun some_report => ?_, fun nothing => ?_, ?_⟩
    · rw [written, if_neg fun nothing => some_report nothing.1, List.append_nil]
    · rw [written, if_pos nothing, nothing.1]
      rfl
    · have same : sink.text ++ encoder.encodeAll (reports.flatten ++
          if reports = [] ∧ indexes = [] then [notFoundDocument pattern] else []) = sink.text ↔
            encoder.encodeAll (reports.flatten ++
              if reports = [] ∧ indexes = [] then [notFoundDocument pattern] else []) = "" := by
        simp
      rw [written, same]
      exact encodeAll_eq_empty_iff encoder each pattern (indexes = [])

def bareIndex : Snapshot where
  indexes := [{ name := "idx", table := "t" }]

theorem run_describeRelations_bareIndex :
    let r := bareIndex.reader .all (.ofList [.indexColumns])
    let run := (describeRelations (.ofReader r {}) "idx" false false).run r .table [] {}
    run.1 = .ok () ∧ run.2.2.text = "" := by
  intro r run
  obtain ⟨ends, outcome⟩ := run_describeRelations bareIndex .all (.ofList [.indexColumns]) {} "idx"
    false false .table [] {}
  have ended : run.1 = .ok () := ends rfl
  obtain ⟨-, -, -, silent⟩ := outcome ended
  exact ⟨ended, silent.2 ⟨by decide +kernel, by decide +kernel⟩⟩

end Describer

end CatalogReport
