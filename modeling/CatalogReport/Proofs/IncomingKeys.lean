import CatalogReport.Proofs.NamesAsPatterns
import CatalogReport.Proofs.TableSections

/-!
# Foreign keys that refer to a table

The section on what refers to a table asks for constraints by the name of the table they refer to,
and by a schema. That is the schema of the table that has the constraint: a foreign key in another
schema is not in the section, and one in the same schema is, though it refers to a table of that
name in another schema.
-/

namespace CatalogReport

/-- Two ways of keeping rows keep the same just when they agree on each of them. -/
theorem filter_eq_filter_iff {α : Type} {p q : α → Bool} {rows : List α} :
    rows.filter p = rows.filter q ↔ ∀ row ∈ rows, p row = q row := by
  refine ⟨fun same row stored => ?_, List.filter_congr⟩
  rw [Bool.eq_iff_iff]
  have kept : row ∈ rows.filter p ↔ row ∈ rows.filter q := by rw [same]
  simpa [stored] using kept

namespace Describer

variable (d : Describer) (s : Snapshot) (declined : Capabilities)

/-! ## The section -/

/-- The foreign keys of the tables of a schema that refer to a table with this name, of any
schema. -/
def referringWithin (schema table : String) : List Constraint :=
  (Entity.distinct (s.constraints.filter fun c =>
    c.schema == schema && c.foreignTable == table)).filter isForeignKey

/-- The stored foreign keys that refer to a table. -/
def referringTo (schema table : String) : List Constraint :=
  s.constraints.filter fun c =>
    isForeignKey c && c.foreignSchema == schema && c.foreignTable == table

theorem accepts_referring {schema table : String} (literalSchema : Literal schema)
    (literalTable : Literal table) (c : Constraint) :
    (referring schema table).accepts .constraints c =
      (c.schema == schema && c.foreignTable == table) := by
  rw [Bool.eq_iff_iff]
  simp [Filter.accepts, Attribute.all, Kind.governed, Kind.typeOf, Filter.pattern, referring,
    Filter.acceptsType, NameSet.isEmpty, NameSet.empty, Filter.like_accepts_empty,
    literalSchema.like_accepts_iff, literalTable.like_accepts_iff]

theorem sectionRows_referring {schema table : String}
    (served : d.serves declined .constraints = true)
    (literalSchema : Literal schema) (literalTable : Literal table) :
    d.sectionRows s declined schema table .referring = referringWithin s schema table := by
  have rows : s.select .constraints (referring schema table) =
      Entity.distinct (s.constraints.filter fun c =>
        c.schema == schema && c.foreignTable == table) := by
    rw [← funext (accepts_referring literalSchema literalTable)]
    rfl
  have listed : d.served s declined .constraints (referring schema table) =
      some (s.select .constraints (referring schema table)) := if_pos served
  show ((d.served s declined .constraints (referring schema table)).getD []).filter isForeignKey = _
  rw [listed, rows]
  rfl

theorem sectionBlock_referring {schema table : String}
    (served : d.serves declined .constraints = true) (literalSchema : Literal schema)
    (literalTable : Literal table) :
    d.sectionBlock s declined schema table .referring =
      if (referringWithin s schema table).isEmpty then []
      else "Referenced by:" :: (referringWithin s schema table).map fun c =>
        referringLine c (d.constrainedColumns s declined c) := by
  unfold sectionBlock
  rw [d.sectionRows_referring s declined served literalSchema literalTable]
  rfl

/-- The section shows the foreign keys that refer to the table just when, of all that refer to a
table of its name, those in its schema are those that refer to its schema. -/
theorem referringWithin_eq_iff (own : s.constraints.Pairwise fun a b => Entity.key a ≠ Entity.key b)
    (schema table : String) :
    referringWithin s schema table = referringTo s schema table ↔
      ∀ c ∈ s.constraints, isForeignKey c = true → c.foreignTable = table →
        (c.schema = schema ↔ c.foreignSchema = schema) := by
  unfold referringWithin referringTo
  rw [Entity.distinct_eq_self (own.filter _), List.filter_filter, filter_eq_filter_iff]
  refine forall₂_congr fun c _ => ?_
  rw [Bool.eq_iff_iff]
  simp only [Bool.and_eq_true, beq_iff_eq]
  tauto

theorem summaryLines_eq (schema table : String) :
    d.summaryLines s declined schema table =
      d.sectionBlock s declined schema table .indexes ++
        d.sectionBlock s declined schema table .checks ++
        d.sectionBlock s declined schema table .foreignKeys ++
        d.sectionBlock s declined schema table .referring ++
        d.sectionBlock s declined schema table .triggers := by
  simp [summaryLines, Section.all]

/-- The report on a table with literal names, as far as it is about what refers to the table: when
constraints are served, its summary has one line for each foreign key of the schema of the table
that refers to a table of its name, under a heading if there are any. If no two constraints have one
key, these are the foreign keys that refer to the table just when, of those that refer to a table of
its name, the ones in its schema are the ones that refer to its schema. -/
theorem run_referring (s : Snapshot) (offers declined : Capabilities) (config : Config)
    (pattern : String) (verbose showSystem : Bool) (encoder : Encoder) (tally : Tally)
    (sink : Sink) :
    let r := s.reader offers declined
    let d : Describer := .ofReader r config
    let run := (d.describeRelations pattern verbose showSystem).run r encoder tally sink
    let tables := d.describedTables s declined (matching pattern showSystem) showSystem
    (sink.limit = none → run.1 = .ok ()) ∧
    (run.1 = .ok () → ∃ later, run.2.2.text = sink.text ++ encoder.encodeAll
      (tables.flatMap fun t =>
        d.columnListing s declined verbose t :: d.summaryDocuments s declined t) ++ later) ∧
    ∀ t ∈ tables, d.serves declined .constraints = true → Literal t.schema → Literal t.name →
      let listed := referringWithin s t.schema t.name
      let sectionOf := d.sectionBlock s declined t.schema t.name
      d.summaryDocuments s declined t =
        (let lines := sectionOf .indexes ++ sectionOf .checks ++ sectionOf .foreignKeys ++
          (if listed.isEmpty then []
            else "Referenced by:" :: listed.map fun c =>
              referringLine c (d.constrainedColumns s declined c)) ++ sectionOf .triggers
        if lines.isEmpty then [] else [.lines lines]) ∧
      ((s.constraints.Pairwise fun a b => Entity.key a ≠ Entity.key b) →
        (listed = referringTo s t.schema t.name ↔
          ∀ c ∈ s.constraints, isForeignKey c = true → c.foreignTable = t.name →
            (c.schema = t.schema ↔ c.foreignSchema = t.schema))) := by
  intro r d run tables
  obtain ⟨ends, written⟩ :=
    written_describeRelations s declined offers config pattern verbose showSystem encoder tally sink
  refine ⟨ends, written, fun t _ served literalSchema literalName => ⟨?_, fun own => ?_⟩⟩
  · unfold summaryDocuments
    rw [summaryLines_eq, d.sectionBlock_referring s declined served literalSchema literalName]
  · exact referringWithin_eq_iff s own t.schema t.name

/-- A foreign key of another schema is not shown where the table is described that it refers to. -/
theorem run_referring_elsewhere :
    let t : Table := { schema := "a", name := "t", type := "TABLE" }
    let incoming : Constraint := {
      schema := "b", table := "u", name := "u_t", type := .foreignKey, foreignSchema := "a",
      foreignTable := "t" }
    let s : Snapshot := { tables := [t], constraints := [incoming] }
    let r := s.reader .all .none
    let d : Describer := .ofReader r {}
    ((d.describeRelations "a.t" false false).run r .table [] {}).1 = .ok () ∧
      referringTo s "a" "t" = [incoming] ∧ referringWithin s "a" "t" ≠ referringTo s "a" "t" := by
  intro t incoming s r d
  obtain ⟨ends, -, referred⟩ := run_referring s .all .none {} "a.t" false false .table [] {}
  have described : t ∈ d.describedTables s .none (matching "a.t" false) false := by
    have found : (matching "a.t" false).accepts .tables t = true := by decide +kernel
    have shown : d.shows (k := .tables) false t = true := by decide +kernel
    refine List.mem_filter.2 ⟨?_, shown⟩
    show t ∈ s.select .tables (matching "a.t" false)
    rw [s.select_eq_filter rfl (List.pairwise_singleton _ _)]
    exact List.mem_filter.2 ⟨List.mem_cons_self, found⟩
  have exactly := (referred t described rfl (by decide) (by decide)).2 (List.pairwise_singleton _ _)
  refine ⟨ends rfl, rfl, fun same => ?_⟩
  have agree := exactly.1 same incoming List.mem_cons_self rfl rfl
  exact absurd (agree.2 rfl) (by decide)

end Describer

end CatalogReport
