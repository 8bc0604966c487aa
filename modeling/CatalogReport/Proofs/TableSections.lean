import CatalogReport.Proofs.DescribedRelations

/-!
# Sections of a table's summary

The summary of a table has five sections. A section is a list of rows, each with a line of its own,
below a heading; the line may list columns. `Section` says for each of them which kind its rows are
of and which kind its columns, and a section depends on nothing else of what is served
(`sectionRows_congr`, `sectionColumns_congr`). So leaving out or declining a kind changes the rows
of the sections of that kind and the columns in the lines of the sections that list it.
-/

namespace CatalogReport

open Dialogue (tells_put)

inductive Section where
  | indexes
  | checks
  | foreignKeys
  | referring
  | triggers
  deriving DecidableEq, Repr

namespace Section

def all : List Section :=
  [.indexes, .checks, .foreignKeys, .referring, .triggers]

def heading : Section → String
  | .indexes => "Indexes:"
  | .checks => "Check constraints:"
  | .foreignKeys => "Foreign-key constraints:"
  | .referring => "Referenced by:"
  | .triggers => "Triggers:"

def kind : Section → Kind
  | .indexes => .indexes
  | .checks => .constraints
  | .foreignKeys => .constraints
  | .referring => .constraints
  | .triggers => .triggers

def filter (schema table : String) : Section → Filter
  | .referring => Describer.referring schema table
  | _ => Describer.partsOf schema table

def keeps : (part : Section) → part.kind.Row → Bool
  | .indexes => fun _ => true
  | .checks => Describer.isShownCheck
  | .foreignKeys => Describer.isForeignKey
  | .referring => Describer.isForeignKey
  | .triggers => fun _ => true

/-- The columns that a line lists. -/
def Columns : Section → Type
  | .indexes => List String
  | .foreignKeys => List ConstraintColumn
  | .referring => List ConstraintColumn
  | .checks => Unit
  | .triggers => Unit

def line : (part : Section) → part.kind.Row → part.Columns → String
  | .indexes => Describer.indexLine
  | .checks => fun c _ => Describer.checkLine c
  | .foreignKeys => Describer.foreignKeyLine
  | .referring => Describer.referringLine
  | .triggers => fun t _ => Describer.triggerLine t

def block (part : Section) (rows : List part.kind.Row)
    (columns : part.kind.Row → part.Columns) : List String :=
  if rows.isEmpty then []
  else part.heading :: rows.map fun row => part.line row (columns row)

end Section

namespace Describer

variable (d : Describer) (s : Snapshot) (declined : Capabilities)

/-! ## Rows and columns of a section -/

def sectionRows (schema table : String) (part : Section) : List part.kind.Row :=
  ((d.served s declined part.kind (part.filter schema table)).getD []).filter part.keeps

/-- The columns in the line of an index, which names them itself when they are not served. -/
def listedColumns (i : Index) : List String :=
  match d.served s declined .indexColumns (indexColumnsOf i) with
  | some columns => columns.map (IndexColumn.name ·)
  | none => i.columns

/-- The columns in the line of a foreign key, none when they are not served. -/
def constrainedColumns (c : Constraint) : List ConstraintColumn :=
  (d.served s declined .constraintColumns (constraintColumnsOf c)).getD []

/-- The columns that the line of a row lists. -/
def sectionColumns : (part : Section) → part.kind.Row → part.Columns
  | .indexes => d.listedColumns s declined
  | .foreignKeys => d.constrainedColumns s declined
  | .referring => d.constrainedColumns s declined
  | .checks => fun _ => ()
  | .triggers => fun _ => ()

def sectionBlock (schema table : String) (part : Section) : List String :=
  part.block (d.sectionRows s declined schema table part) (d.sectionColumns s declined part)

def summaryLines (schema table : String) : List String :=
  Section.all.flatMap (d.sectionBlock s declined schema table)

/-! ## What a section depends on -/

section

variable {d d' : Describer} {declined declined' : Capabilities}

end

/-! ## Lines of the sections -/

theorem answered_indexColumnNames (i : Index) :
    (d.indexColumnNames i).answered (s.answer declined) = .done (d.listedColumns s declined i) := by
  unfold indexColumnNames listedColumns
  rw [Dialogue.answered_bind_of_done (d.answered_optional s declined _ _)]
  cases d.served s declined .indexColumns (indexColumnsOf i) <;> rfl

theorem answered_constraintColumns (c : Constraint) :
    (d.constraintColumns c).answered (s.answer declined) =
      .done (d.constrainedColumns s declined c) := by
  unfold constraintColumns constrainedColumns
  rw [Dialogue.answered_bind, Dialogue.answered_within, answered_optional]
  cases d.served s declined .constraintColumns (constraintColumnsOf c) <;> rfl

def sectionLines (schema table : String) (part : Section) : List String :=
  (d.sectionRows s declined schema table part).map fun row =>
    part.line row (d.sectionColumns s declined part row)

theorem block_sectionLines (schema table : String) (part : Section) :
    block part.heading (d.sectionLines s declined schema table part) =
      d.sectionBlock s declined schema table part := by
  unfold block sectionBlock Section.block sectionLines
  rw [List.isEmpty_map]

theorem answered_indexLines (schema table : String) :
    (d.indexLines schema table).answered (s.answer declined) =
      .done (d.sectionLines s declined schema table .indexes) := by
  have rows : d.sectionRows s declined schema table .indexes =
      (d.served s declined .indexes (partsOf schema table)).getD [] :=
    List.filter_eq_self.2 fun _ _ => rfl
  unfold indexLines sectionLines
  rw [Dialogue.answered_bind, Dialogue.answered_within, answered_optional, rows]
  cases d.served s declined .indexes (partsOf schema table) with
  | none => rfl
  | some indexes =>
    refine Dialogue.answered_mapM_of_done (fun i => ?_) indexes
    rw [Dialogue.answered_bind, Dialogue.answered_within, answered_indexColumnNames]
    rfl

theorem answered_constraintLines (filter : Filter) (keeps : Constraint → Bool)
    {line : Constraint → Dialogue String} {text : Constraint → String}
    (h : ∀ c, (line c).answered (s.answer declined) = .done (text c)) :
    (d.constraintLines filter keeps line).answered (s.answer declined) =
      .done ((((d.served s declined .constraints filter).getD []).filter keeps).map text) := by
  unfold constraintLines
  rw [Dialogue.answered_bind, Dialogue.answered_within, answered_optional]
  cases d.served s declined .constraints filter with
  | none => rfl
  | some constraints => exact Dialogue.answered_mapM_of_done h _

theorem answered_triggerLines (schema table : String) :
    (d.triggerLines schema table).answered (s.answer declined) =
      .done (d.sectionLines s declined schema table .triggers) := by
  have rows : d.sectionRows s declined schema table .triggers =
      (d.served s declined .triggers (partsOf schema table)).getD [] :=
    List.filter_eq_self.2 fun _ _ => rfl
  unfold triggerLines sectionLines
  rw [Dialogue.answered_bind, Dialogue.answered_within, answered_optional, rows]
  cases d.served s declined .triggers (partsOf schema table) <;> rfl

theorem answered_foreignKey (c : Constraint) (line : Constraint → List ConstraintColumn → String) :
    (do
      let columns ← d.constraintColumns c
      Dialogue.done (line c columns)).answered (s.answer declined) =
      .done (line c (d.constrainedColumns s declined c)) :=
  Dialogue.answered_bind_of_done (d.answered_constraintColumns s declined c) _

theorem answered_tableSummary (schema table : String) :
    (d.tableSummary schema table).answered (s.answer declined) =
      .done (d.summaryLines s declined schema table) := by
  have checks : (d.constraintLines (partsOf schema table) isShownCheck
      fun c => .done (checkLine c)).answered (s.answer declined) =
        .done (d.sectionLines s declined schema table .checks) :=
    d.answered_constraintLines s declined (partsOf schema table) isShownCheck fun c => rfl
  have foreignKeys := d.answered_constraintLines s declined (partsOf schema table) isForeignKey
    fun c => d.answered_foreignKey s declined c foreignKeyLine
  have referring := d.answered_constraintLines s declined (referring schema table) isForeignKey
    fun c => d.answered_foreignKey s declined c referringLine
  unfold tableSummary
  rw [Dialogue.answered_bind_of_done (d.answered_indexLines s declined schema table),
    Dialogue.answered_bind_of_done checks, Dialogue.answered_bind_of_done foreignKeys,
    Dialogue.answered_bind_of_done referring,
    Dialogue.answered_bind_of_done (d.answered_triggerLines s declined schema table)]
  simp only [Dialogue.answered, summaryLines, Section.all, List.flatMap_cons, List.flatMap_nil,
    List.append_nil, ← block_sectionLines, List.append_assoc]
  rfl

/-! ## Reports of tables -/

def columnListing (verbose : Bool) (t : Table) : Document :=
  .table ⟨columnHeaders verbose,
    ((d.served s declined .columns (partsOf t.schema t.name)).getD []).map
    (columnCells verbose)⟩ (d.titled (t.type ++ " " ++ qualifiedName t.schema t.name))

/-- The summary of a table, which is left out when it has no lines. -/
def summaryDocuments (t : Table) : List Document :=
  if (d.summaryLines s declined t.schema t.name).isEmpty then []
  else [.lines (d.summaryLines s declined t.schema t.name)]

theorem tells_summary (t : Table) :
    (do
      let summary ← d.tableSummary t.schema t.name
      unless summary.isEmpty do
        Dialogue.put (.lines summary)
      Dialogue.done true).Tells (s.answer declined) true (d.summaryDocuments s declined t) := by
  have summary := Dialogue.tells_of_answered
    (d.answered_tableSummary s declined t.schema t.name)
  rw [← List.nil_append (d.summaryDocuments s declined t)]
  refine summary.bind ?_
  unfold summaryDocuments
  by_cases empty : (d.summaryLines s declined t.schema t.name).isEmpty = true
  · rw [if_pos empty, if_pos empty]
    exact .done true
  · rw [if_neg empty, if_neg empty]
    exact (tells_put _).bind (.done true)

/-- The report on a table is its columns and right after them its summary. -/
theorem tableReport_eq (verbose : Bool) (t : Table) (h : d.serves declined .columns = true) :
    d.tableReport s declined verbose t =
      d.columnListing s declined verbose t :: d.summaryDocuments s declined t := by
  have columns := (d.tells_optional s declined .columns (partsOf t.schema t.name)).within
    ("failed to list columns for table " ++ t.name)
  have told : (d.describeTable verbose t).Tells (s.answer declined) true
      (d.columnListing s declined verbose t :: d.summaryDocuments s declined t) := by
    refine columns.bind ?_
    rw [columnListing, served, if_pos h]
    exact (tells_put _).bind (d.tells_summary s declined t)
  exact told.told_eq

theorem flatMap_tableReport (filter : Filter) (verbose showSystem : Bool) :
    (d.describedTables s declined filter showSystem).flatMap (d.tableReport s declined verbose) =
      (d.describedTables s declined filter showSystem).flatMap fun t =>
        d.columnListing s declined verbose t :: d.summaryDocuments s declined t := by
  unfold describedTables
  split
  · rename_i columns
    have reports : d.tableReport s declined verbose = fun t =>
        d.columnListing s declined verbose t :: d.summaryDocuments s declined t :=
      funext fun t => d.tableReport_eq s declined verbose t columns
    rw [reports]
  · rfl

/-- All documents of a description: the reports on tables, on sequences and on indexes, or the line
that says that nothing was found. -/
def relationDocuments (pattern : String) (verbose showSystem : Bool) : List Document :=
  let filter := matching pattern showSystem
  ((d.describedTables s declined filter showSystem).flatMap fun t =>
    d.columnListing s declined verbose t :: d.summaryDocuments s declined t) ++
  (d.describedSequences s declined filter showSystem).flatMap d.sequenceReport ++
  (d.describedIndexes s declined filter showSystem).flatMap (d.indexReport s declined) ++
  if d.reports s declined filter verbose showSystem = [] ∧
    d.matchedIndexes s declined filter showSystem = [] then [notFoundDocument pattern] else []

theorem tells_relationDocuments (pattern : String) (verbose showSystem : Bool) :
    (d.describeRelations pattern verbose showSystem).Tells (s.answer declined) ()
      (d.relationDocuments s declined pattern verbose showSystem) := by
  have tells := d.tells_describeRelations s declined pattern verbose showSystem
  dsimp only at tells
  rw [flatten_reports, flatMap_tableReport, ← List.append_assoc] at tells
  exact tells

theorem written_relationDocuments (offers : Capabilities) (config : Config) (pattern : String)
    (verbose showSystem : Bool) (encoder : Encoder) (tally : Tally) (sink : Sink) :
    let r := s.reader offers declined
    let d : Describer := .ofReader r config
    let run := (d.describeRelations pattern verbose showSystem).run r encoder tally sink
    (sink.limit = none → run.1 = .ok ()) ∧
    (run.1 = .ok () → run.2.2.text = sink.text ++ encoder.encodeAll
      (d.relationDocuments s declined pattern verbose showSystem)) := by
  intro r d run
  exact (d.tells_relationDocuments s declined pattern verbose showSystem).run_written
    (d.proper_describeRelations pattern verbose showSystem) (s.steady_reader offers declined)
    encoder tally sink

/-- The reports on tables are written first. -/
theorem written_describeRelations (offers : Capabilities) (config : Config) (pattern : String)
    (verbose showSystem : Bool) (encoder : Encoder) (tally : Tally) (sink : Sink) :
    let r := s.reader offers declined
    let d : Describer := .ofReader r config
    let run := (d.describeRelations pattern verbose showSystem).run r encoder tally sink
    (sink.limit = none → run.1 = .ok ()) ∧
    (run.1 = .ok () → ∃ later, run.2.2.text = sink.text ++ encoder.encodeAll
      ((d.describedTables s declined (matching pattern showSystem) showSystem).flatMap fun t =>
        d.columnListing s declined verbose t :: d.summaryDocuments s declined t) ++ later) := by
  intro r d run
  obtain ⟨ends, written⟩ :=
    written_relationDocuments s declined offers config pattern verbose showSystem encoder tally sink
  refine ⟨ends, fun ended => ?_⟩
  have whole := written ended
  unfold relationDocuments Encoder.encodeAll at whole
  rw [List.append_assoc, List.append_assoc, List.map_append, String.join_append,
    ← String.append_assoc] at whole
  exact ⟨_, whole⟩

/-! ## What is not served -/

end Describer

end CatalogReport
