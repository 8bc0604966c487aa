import CatalogReport.Proofs.FunctionListing
import CatalogReport.Proofs.JsonCodec
import CatalogReport.Proofs.NamesAsPatterns
import CatalogReport.Proofs.TableSections

/-!
# Places of parts

The columns of an index, those of a constraint and the parameters of a function are parts of a
whole, each at a place. They are listed by place, and of parts with one key the first is left. The
key of a column ends with its name, so of the columns of one whole that share a name only one is
listed, such as of unnamed expressions (`listsPlaces_select`). The key of a parameter ends with its
place, so every place of a function is listed.
-/

namespace CatalogReport

/-! ## First rows -/

namespace Entity

variable {α : Type} [Entity α]

/-- What is kept of the rows with one key is the one that is found first. -/
theorem mem_distinctFrom_iff {seen : List (List String)} {rows : List α} {row : α} :
    row ∈ distinctFrom seen rows ↔
      key row ∉ seen ∧ rows.find? (fun other => key other = key row) = some row := by
  induction rows generalizing seen with
  | nil => simp [distinctFrom]
  | cons first rows ih =>
    by_cases same : key first = key row
    · -- The first row takes the place of all rows with its key.
      rw [List.find?_cons_of_pos (by simpa using same), Option.some_inj]
      by_cases known : key first ∈ seen
      · rw [distinctFrom_cons_of_mem known, ih]
        simp [← same, known]
      · rw [distinctFrom_cons_of_not_mem known, List.mem_cons, ih]
        simp [← same, known, eq_comm]
    · have later : row ≠ first := fun e => same (by rw [e])
      rw [List.find?_cons_of_neg (by simpa using same)]
      by_cases known : key first ∈ seen
      · rw [distinctFrom_cons_of_mem known, ih]
      · rw [distinctFrom_cons_of_not_mem known, List.mem_cons, ih]
        simp [later, Ne.symm same]

end Entity

namespace StableBy

variable {α : Type} {position : α → Int} {rows listed : List α} {row : α}

theorem head?_eq_some_iff (h : StableBy position rows listed) :
    listed.head? = some row ↔
      (∀ other ∈ rows, position row ≤ position other) ∧
        rows.find? (fun other => position other = position row) = some row := by
  have level : rows.find? (fun other => position other = position row) =
      listed.find? fun other => position other = position row := by
    rw [← List.head?_filter, ← List.head?_filter, h.stable]
  rw [level]
  cases listed with
  | nil => simp
  | cons first listed =>
    rw [List.head?_cons, Option.some_inj]
    constructor
    · rintro rfl
      refine ⟨fun other stored => ?_, List.find?_cons_of_pos (by simp)⟩
      exact position_head_le h.ascending (h.perm.mem_iff.2 stored)
    · rintro ⟨lowest, found⟩
      have below := lowest first (h.perm.mem_iff.1 List.mem_cons_self)
      have above := position_head_le h.ascending (List.mem_of_find?_eq_some found)
      rw [List.find?_cons_of_pos (by simp; omega)] at found
      exact Option.some.inj found

theorem find?_eq_some_iff (h : StableBy position rows listed) {p : α → Bool} :
    listed.find? p = some row ↔
      (∀ other ∈ rows, p other = true → position row ≤ position other) ∧
        rows.find? (fun other => p other ∧ position other = position row) = some row := by
  rw [← List.head?_filter, (h.filter p).head?_eq_some_iff, List.find?_filter]
  simp only [List.mem_filter, and_imp, decide_eq_true_eq]

end StableBy

/-! ## Parts -/

/-- What has a place in an index, in a constraint or in a function. -/
inductive Part where
  | indexColumn
  | constraintColumn
  | parameter
  deriving DecidableEq, Repr

namespace Part

def kind : Part → Kind
  | .indexColumn => .indexColumns
  | .constraintColumn => .constraintColumns
  | .parameter => .functionColumns

def whole : (part : Part) → part.kind.Row → List String
  | .indexColumn => fun (c : IndexColumn) => [c.catalog, c.schema, c.table, c.indexName]
  | .constraintColumn => fun (c : ConstraintColumn) => [c.catalog, c.schema, c.table, c.constraint]
  | .parameter => fun (c : FunctionColumn) => [c.catalog, c.schema, c.function]

def place : (part : Part) → part.kind.Row → Int
  | .indexColumn => fun (c : IndexColumn) => c.ordinalPosition.toInt
  | .constraintColumn => fun (c : ConstraintColumn) => c.ordinalPosition.toInt
  | .parameter => fun (c : FunctionColumn) => c.ordinalPosition.toInt

/-- What a part is told apart by in its whole: a column by its name, a parameter by its place. -/
def label : (part : Part) → part.kind.Row → String
  | .indexColumn => fun (c : IndexColumn) => c.name
  | .constraintColumn => fun (c : ConstraintColumn) => c.name
  | .parameter => fun (c : FunctionColumn) => Cell.wholeText c.ordinalPosition.toInt

variable {part : Part} {a b : part.kind.Row}

theorem key_eq (part : Part) (row : part.kind.Row) :
    Entity.key row = part.whole row ++ [part.label row] := by
  cases part <;> rfl

theorem key_eq_key_iff :
    Entity.key a = Entity.key b ↔ part.whole a = part.whole b ∧ part.label a = part.label b := by
  rw [key_eq, key_eq]
  constructor
  · intro same
    obtain ⟨whole, label⟩ := List.append_inj' same rfl
    exact ⟨whole, List.singleton_inj.1 label⟩
  · rintro ⟨whole, label⟩
    rw [whole, label]

/-- Parameters with one label are at one place. -/
theorem place_eq_of_label_eq {a b : FunctionColumn} (h : parameter.label a = parameter.label b) :
    parameter.place a = parameter.place b :=
  Cell.wholeText_inj.1 h

theorem stableBy_inPosition (part : Part) (rows : List part.kind.Row) :
    StableBy part.place rows (part.kind.inPosition rows) := by
  cases part with
  | indexColumn => exact (Kind.arranges_iff (k := .indexColumns)).2 rfl
  | constraintColumn => exact (Kind.arranges_iff (k := .constraintColumns)).2 rfl
  | parameter => exact (Kind.arranges_iff (k := .functionColumns)).2 rfl

end Part

/-! ## Answers -/

namespace Snapshot

variable (s : Snapshot)

def admitted (k : Kind) (f : Filter) : List k.Row :=
  (s.rows k).filter fun row => f.Admits k row

theorem mem_admitted {s : Snapshot} {k : Kind} {f : Filter} {row : k.Row} :
    row ∈ s.admitted k f ↔ row ∈ s.rows k ∧ f.Admits k row := by
  simp [admitted]

theorem select_eq_distinct (k : Kind) (f : Filter) :
    s.select k f = Entity.distinct (k.inPosition (s.admitted k f)) := by
  rw [admitted, Filter.filter_admits, select]

variable (part : Part) (f : Filter)

/-- The row is the first of those that are stored with its label at its place. -/
def IsFirst (row : part.kind.Row) : Prop :=
  (s.admitted part.kind f).find? (fun other => part.whole other = part.whole row ∧
    part.label other = part.label row ∧ part.place other = part.place row) = some row

/-- The row is at the lowest place of those with its label, and the first there. -/
structure Leads (row : part.kind.Row) : Prop where
  lowest : ∀ other ∈ s.admitted part.kind f, part.whole other = part.whole row →
    part.label other = part.label row → part.place row ≤ part.place other
  first : s.IsFirst part f row

/-- Rows that are listed as parts, by place. Two parts of one whole at different places are always
both listed just when no two such parts share a label and each is the first with its label at its
place. Every place is listed just when some part at it is the lowest with its label, and every place
of a function is. -/
structure ListsPlaces (rows : List part.kind.Row) : Prop where
  ascending : rows.Pairwise fun a b => part.place a ≤ part.place b
  mem_iff : ∀ row, row ∈ rows ↔ s.Leads part f row
  pairs_iff :
    (∀ a ∈ s.admitted part.kind f, ∀ b ∈ s.admitted part.kind f, part.whole a = part.whole b →
      part.place a ≠ part.place b → a ∈ rows ∧ b ∈ rows) ↔
    ∀ a ∈ s.admitted part.kind f, ∀ b ∈ s.admitted part.kind f, part.whole a = part.whole b →
      part.place a ≠ part.place b →
        part.label a ≠ part.label b ∧ s.IsFirst part f a ∧ s.IsFirst part f b
  places_iff :
    (∀ a ∈ s.admitted part.kind f, ∃ b ∈ rows,
      part.whole b = part.whole a ∧ part.place b = part.place a) ↔
    ∀ a ∈ s.admitted part.kind f, ∃ b ∈ s.admitted part.kind f,
      part.whole b = part.whole a ∧ part.place b = part.place a ∧
        ∀ c ∈ s.admitted part.kind f, part.whole c = part.whole b → part.label c = part.label b →
          part.place b ≤ part.place c
  parameters : part = .parameter → ∀ a ∈ s.admitted part.kind f, ∃ b ∈ rows,
    part.whole b = part.whole a ∧ part.place b = part.place a

variable {s part f}

theorem IsFirst.mem {row : part.kind.Row} (h : s.IsFirst part f row) :
    row ∈ s.admitted part.kind f :=
  List.mem_of_find?_eq_some h

/-- At a place where a part is the lowest with its label, one of that label leads. -/
theorem exists_leads {a : part.kind.Row} (stored : a ∈ s.admitted part.kind f)
    (lowest : ∀ c ∈ s.admitted part.kind f, part.whole c = part.whole a →
      part.label c = part.label a → part.place a ≤ part.place c) :
    ∃ b, s.Leads part f b ∧ part.whole b = part.whole a ∧ part.place b = part.place a := by
  have present : ((s.admitted part.kind f).find? fun other => part.whole other = part.whole a ∧
      part.label other = part.label a ∧ part.place other = part.place a).isSome :=
    List.find?_isSome.2 ⟨a, stored, by simp⟩
  obtain ⟨b, found⟩ := Option.isSome_iff_exists.1 present
  have same := List.find?_some found
  obtain ⟨whole, label, place⟩ := of_decide_eq_true same
  refine ⟨b, ⟨?_, ?_⟩, whole, place⟩
  · rw [whole, label, place]
    exact lowest
  · unfold IsFirst
    rwa [whole, label, place]

theorem mem_select_iff_leads {row : part.kind.Row} :
    row ∈ s.select part.kind f ↔ s.Leads part f row := by
  rw [select_eq_distinct, Entity.distinct, Entity.mem_distinctFrom_iff,
    (part.stableBy_inPosition _).find?_eq_some_iff]
  simp only [Part.key_eq_key_iff, decide_eq_true_eq, and_imp, and_assoc, List.not_mem_nil,
    not_false_eq_true, true_and]
  exact ⟨fun h => ⟨h.1, h.2⟩, fun h => ⟨h.lowest, h.first⟩⟩

variable (s part f)

theorem pairs_select_iff :
    (∀ a ∈ s.admitted part.kind f, ∀ b ∈ s.admitted part.kind f, part.whole a = part.whole b →
      part.place a ≠ part.place b → a ∈ s.select part.kind f ∧ b ∈ s.select part.kind f) ↔
    ∀ a ∈ s.admitted part.kind f, ∀ b ∈ s.admitted part.kind f, part.whole a = part.whole b →
      part.place a ≠ part.place b →
        part.label a ≠ part.label b ∧ s.IsFirst part f a ∧ s.IsFirst part f b := by
  simp only [mem_select_iff_leads]
  constructor
  · intro all a storedA b storedB whole place
    obtain ⟨leadsA, leadsB⟩ := all a storedA b storedB whole place
    refine ⟨fun label => ?_, leadsA.first, leadsB.first⟩
    have below := leadsA.lowest b storedB whole.symm label.symm
    have above := leadsB.lowest a storedA whole label
    exact place (Int.le_antisymm below above)
  · intro apart
    -- A part with the label of another one is at its place.
    have leads (a : part.kind.Row) (stored : a ∈ s.admitted part.kind f)
        (first : s.IsFirst part f a) : s.Leads part f a := by
      refine ⟨fun c storedC whole label => ?_, first⟩
      by_contra lower
      exact (apart a stored c storedC whole.symm (by omega)).1 label.symm
    intro a storedA b storedB whole place
    obtain ⟨-, firstA, firstB⟩ := apart a storedA b storedB whole place
    exact ⟨leads a storedA firstA, leads b storedB firstB⟩

theorem places_select_iff :
    (∀ a ∈ s.admitted part.kind f, ∃ b ∈ s.select part.kind f,
      part.whole b = part.whole a ∧ part.place b = part.place a) ↔
    ∀ a ∈ s.admitted part.kind f, ∃ b ∈ s.admitted part.kind f,
      part.whole b = part.whole a ∧ part.place b = part.place a ∧
        ∀ c ∈ s.admitted part.kind f, part.whole c = part.whole b → part.label c = part.label b →
          part.place b ≤ part.place c := by
  simp only [mem_select_iff_leads]
  refine forall₂_congr fun a stored => ?_
  constructor
  · rintro ⟨b, leads, whole, place⟩
    exact ⟨b, leads.first.mem, whole, place, leads.lowest⟩
  · rintro ⟨b, storedB, whole, place, lowest⟩
    obtain ⟨c, leads, whole', place'⟩ := exists_leads storedB lowest
    exact ⟨c, leads, whole'.trans whole, place'.trans place⟩

theorem ascending_select :
    (s.select part.kind f).Pairwise fun a b => part.place a ≤ part.place b := by
  rw [select_eq_distinct]
  exact (part.stableBy_inPosition _).ascending.sublist (Entity.distinctFrom_sublist _ _)

theorem listsPlaces_select : s.ListsPlaces part f (s.select part.kind f) where
  ascending := s.ascending_select part f
  mem_iff _ := mem_select_iff_leads
  pairs_iff := s.pairs_select_iff part f
  places_iff := s.places_select_iff part f
  parameters := by
    rintro rfl
    refine (s.places_select_iff .parameter f).2 fun a stored => ⟨a, stored, rfl, rfl, ?_⟩
    intro c _ _ label
    exact Int.le_of_eq (Part.place_eq_of_label_eq label).symm

end Snapshot

namespace Describer

variable (d : Describer) (s : Snapshot) (declined : Capabilities)

/-! ## What is shown of parts -/

/-- The line and the report of an index, the lines of a foreign key and the arguments of a function
show what is listed as their parts. -/
structure ShowsPlaces : Prop where
  indexLine : d.serves declined .indexColumns = true → ∀ i, ∃ columns,
    s.ListsPlaces .indexColumn (indexColumnsOf i) columns ∧
      Section.indexes.line i (d.sectionColumns s declined .indexes i) =
        Describer.indexLine i (columns.map (IndexColumn.name ·))
  indexReport : d.serves declined .indexColumns = true → ∀ i, ∃ columns,
    s.ListsPlaces .indexColumn (indexColumnsAnywhere i) columns ∧
      d.indexReport s declined i =
        [.table ⟨["Name", "Type"], columns.map fun (c : IndexColumn) => [↑c.name, ↑c.dataType]⟩
          (d.titled ("Index " ++ qualifiedName i.schema i.name)), .lines [indexNote i]]
  constraintLines : d.serves declined .constraintColumns = true → ∀ c, ∃ columns,
    s.ListsPlaces .constraintColumn (constraintColumnsOf c) columns ∧
      Section.foreignKeys.line c (d.sectionColumns s declined .foreignKeys c) =
        foreignKeyLine c columns ∧
      Section.referring.line c (d.sectionColumns s declined .referring c) = referringLine c columns
  arguments : d.serves declined .functionColumns = true → ∀ f, ∃ parameters,
    s.ListsPlaces .parameter (parametersOf f) parameters ∧
      d.shownFunction s declined f = { f with argTypes := argumentText parameters }

theorem listedColumns_of_served (h : d.serves declined .indexColumns = true) (i : Index) :
    d.listedColumns s declined i =
      (s.select .indexColumns (indexColumnsOf i)).map (IndexColumn.name ·) := by
  rw [listedColumns, served, if_pos h]

theorem columnsOf_of_served (h : d.serves declined .indexColumns = true) (i : Index) :
    d.columnsOf s declined i = s.select .indexColumns (indexColumnsAnywhere i) := by
  rw [columnsOf, served, if_pos h]
  rfl

theorem showsPlaces : d.ShowsPlaces s declined where
  indexLine served i := by
    exact ⟨_, s.listsPlaces_select .indexColumn (indexColumnsOf i),
      congrArg (Describer.indexLine i) (d.listedColumns_of_served s declined served i)⟩
  indexReport served i := by
    refine ⟨_, s.listsPlaces_select .indexColumn (indexColumnsAnywhere i), ?_⟩
    rw [Describer.indexReport, d.columnsOf_of_served s declined served]
    rfl
  constraintLines served c := by
    refine ⟨_, s.listsPlaces_select .constraintColumn (constraintColumnsOf c), ?_⟩
    show foreignKeyLine c (d.constrainedColumns s declined c) = _ ∧
      referringLine c (d.constrainedColumns s declined c) = _
    rw [constrainedColumns, Describer.served, if_pos served]
    exact ⟨rfl, rfl⟩
  arguments served f := by
    refine ⟨_, s.listsPlaces_select .parameter (parametersOf f), ?_⟩
    rw [shownFunction, argumentsOf, Describer.served, if_pos served]
    rfl

/-- A query for parts that is not declined answers with those that lead at their places, and
descriptions of relations and lists of functions show what is answered for an index, a foreign key
or a function. -/
theorem run_part_places (s : Snapshot) (offers declined : Capabilities) (config : Config)
    (pattern : String) (verbose showSystem : Bool) (encoder : Encoder) (tally : Tally)
    (sink : Sink) :
    let r := s.reader offers declined
    let d : Describer := .ofReader r config
    (∀ (part : Part) (f : Filter) (tally' : Tally), declined.has part.kind = false → ∃ rows,
      (r.ask part.kind f tally').1 = .ok rows ∧ s.ListsPlaces part f rows) ∧
    d.ShowsPlaces s declined ∧
    (let run := (d.describeRelations pattern verbose showSystem).run r encoder tally sink
      let documents := d.relationDocuments s declined pattern verbose showSystem
      (sink.limit = none → run.1 = .ok ()) ∧
      (run.1 = .ok () → run.2.2.text = sink.text ++ encoder.encodeAll documents)) ∧
    ∀ codes, d.serves declined .functions = true →
      let run := (d.listFunctions codes pattern verbose showSystem).run r encoder tally sink
      let functions := d.shownFunctions showSystem
        (s.select .functions (d.functionsOf codes pattern showSystem))
      (sink.limit = none → run.1 = .ok ()) ∧
      (run.1 = .ok () → run.2.2.text = sink.text ++ encoder.encode
        (.table ⟨functionHeaders verbose,
          functions.map fun f => functionCells verbose (d.shownFunction s declined f)⟩
          (config.options.withTitle "List of functions"))) := by
  intro r d
  refine ⟨fun part f tally' served => ?_, d.showsPlaces s declined, ?_, fun codes => ?_⟩
  · refine ⟨s.select part.kind f, ?_, s.listsPlaces_select part f⟩
    show s.answer declined part.kind f = _
    rw [Snapshot.answer, if_neg (by simp [served])]
  · exact written_relationDocuments s declined offers config pattern verbose showSystem encoder
      tally sink
  · exact written_listFunctions s declined offers config codes pattern verbose showSystem
      encoder tally sink

/-- Of two unnamed columns of an index the second is left out; of two unnamed parameters none is. -/
theorem run_part_places_unnamed :
    let first : IndexColumn :=
      { table := "t", indexName := "i", ordinalPosition := 1, dataType := "text" }
    let second : IndexColumn :=
      { table := "t", indexName := "i", ordinalPosition := 2, dataType := "int" }
    let parameter : FunctionColumn := { function := "f", ordinalPosition := 2, dataType := "int" }
    let s : Snapshot := {
      indexColumns := [first, second]
      functionColumns :=
        [{ function := "f", ordinalPosition := 1, dataType := "text" }, parameter] }
    let r := s.reader .all .none
    let columns : Filter := { parent := "t", name := "i" }
    ((describeRelations (.ofReader r {}) "i" false false).run r .table [] {}).1 = .ok () ∧
      second ∈ s.admitted .indexColumns columns ∧
      (∃ rows, (r.ask .indexColumns columns []).1 = .ok rows ∧ second ∉ rows) ∧
      ∃ rows, (r.ask .functionColumns { parent := "f" } []).1 = .ok rows ∧
        ∃ row ∈ rows, Part.parameter.place row = 2 := by
  intro first second parameter s r columns
  obtain ⟨answers, -, ⟨ends, -⟩, -⟩ := run_part_places s .all .none {} "i" false false .table [] {}
  obtain ⟨rows, answer, places⟩ := answers .indexColumn columns [] rfl
  obtain ⟨rows', answer', places'⟩ := answers .parameter { parent := "f" } [] rfl
  have admittedFirst : first ∈ s.admitted .indexColumns columns :=
    Snapshot.mem_admitted.2 ⟨by simp [s, Snapshot.rows], by decide +kernel⟩
  have admittedSecond : second ∈ s.admitted .indexColumns columns :=
    Snapshot.mem_admitted.2 ⟨by simp [s, Snapshot.rows], by decide +kernel⟩
  have admittedParameter : parameter ∈ s.admitted .functionColumns { parent := "f" } :=
    Snapshot.mem_admitted.2 ⟨by simp [s, Snapshot.rows], by decide +kernel⟩
  refine ⟨ends rfl, admittedSecond, ⟨rows, answer, fun listed => ?_⟩, rows', answer', ?_⟩
  · have lowest := ((places.mem_iff second).1 listed).lowest first admittedFirst rfl rfl
    exact absurd lowest (by decide)
  · obtain ⟨row, listed, -, place⟩ := places'.parameters rfl parameter admittedParameter
    exact ⟨row, listed, place⟩

end Describer

end CatalogReport
