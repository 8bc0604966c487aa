import CatalogReport.Live.Reader
import CatalogReport.Proofs.AskedFilters
import CatalogReport.Proofs.ConditionText
import CatalogReport.Proofs.Placeholders
import CatalogReport.Proofs.Selection

/-!
# Rows of a statement and rows of a snapshot

For the filters that commands ask with, the condition of a statement accepts the rows whose entities
the reader of a snapshot selects and that are left when system rows are hidden
(`condition_accepts_iff`). The columns of the statements and the attributes of the entities are two
tables, which agree where such a filter asks for something (`Asked.isSome_reads`,
`Asked.reads_ofRecord`).
-/

namespace CatalogReport

open CatalogReport.Filter (Asked)

variable {k : Kind} {f : Filter} {r : Record} {system : List String}

/-! ## The two tables -/

namespace Kind

def reads (k : Kind) : Criterion → Option (k.Row → String)
  | .pattern a => k.governed a
  | .types => k.typeOf
  | .system => if k = .catalogs then none else some Entity.schema

theorem columnStat_ofRecord (extended : Bool) (r : Record) :
    let stat := ColumnStat.ofRecord extended r
    stat.catalog = Value?.text (r "table_catalog") ∧ stat.schema = Value?.text (r "table_schema") ∧
      stat.table = Value?.text (r "table_name") ∧ stat.name = Value?.text (r "column_name") := by
  cases extended <;> exact ⟨rfl, rfl, rfl, rfl⟩

/-- The attribute that a filter governs is read from the column that its clause is on. -/
theorem governed_ofRecord {a : Attribute} {column : String} {get : k.Row → String}
    (mapped : k.filterColumns.governed a = some column) (governed : k.governed a = some get) :
    get (k.ofRecord f r) = Value?.text (r column) := by
  have stat := columnStat_ofRecord (f.acceptsType "extended") r
  cases k <;> cases a <;> cases mapped <;> cases governed <;>
    first
    | rfl
    | exact stat.1
    | exact stat.2.1
    | exact stat.2.2.1
    | exact stat.2.2.2

theorem typeOf_ofRecord {column : String} {get : k.Row → String} (free : k ≠ .constraints)
    (mapped : k.filterColumns.type = some column) (typed : k.typeOf = some get) :
    get (k.ofRecord f r) = Value?.text (r column) := by
  cases k <;> cases mapped <;> cases typed <;> first | rfl | exact absurd rfl free

theorem schema_ofRecord {column : String} (mapped : k.filterColumns.system = some column) :
    Entity.schema (k.ofRecord f r) = Value?.text (r column) := by
  have stat := columnStat_ofRecord (f.acceptsType "extended") r
  cases k <;> cases mapped <;> first | rfl | exact stat.2.1

end Kind

namespace Filter.Asked

/-- A command asks for an attribute only where a statement has a column for it if a snapshot governs
it. The tables differ in the catalog of a catalog, the schema of a schema and the table that a
column of a constraint refers to, which no command asks for. -/
theorem isSome_governed (asked : Asked k f) {a : Attribute} (asks : f.pattern a ≠ "") :
    (k.filterColumns.governed a).isSome = (k.governed a).isSome := by
  rcases asked with asked | asked <;> cases asked <;> cases a <;>
    first | rfl | exact absurd rfl asks

/-- Constraints, whose entities have types of their own, are never asked for by type. -/
theorem ne_constraints (asked : Asked k f) (asks : f.types.names ≠ []) : k ≠ .constraints := by
  rintro rfl
  rcases asked with asked | asked <;> cases asked <;> exact asks rfl

/-- A criterion that asks for something has a column if and only if it looks at an entity. -/
theorem isSome_reads (asked : Asked k f) {criterion : Criterion}
    (asks : f.values system criterion ≠ []) :
    (k.filterColumns.column? criterion).isSome = (k.reads criterion).isSome := by
  cases criterion with
  | pattern a =>
    refine asked.isSome_governed fun empty => asks ?_
    simp [Filter.values_pattern, empty]
  | types | system => cases k <;> rfl

/-- What it looks at is read from this column. -/
theorem reads_ofRecord (asked : Asked k f) {criterion : Criterion}
    (asks : f.values system criterion ≠ []) {column : String} {get : k.Row → String}
    (mapped : k.filterColumns.column? criterion = some column)
    (reads : k.reads criterion = some get) :
    get (k.ofRecord f r) = Value?.text (r column) := by
  cases criterion with
  | pattern a => exact Kind.governed_ofRecord mapped reads
  | types => exact Kind.typeOf_ofRecord (asked.ne_constraints asks) mapped reads
  | system =>
    have inside : k ≠ .catalogs := by
      rintro rfl
      cases mapped
    obtain rfl : Entity.schema = get := by
      simpa only [Kind.reads, if_neg inside, Option.some.injEq] using reads
    exact Kind.schema_ofRecord mapped

end Filter.Asked

/-! ## Criterion by criterion -/

/-- What a criterion with these values demands of a text. -/
def Criterion.Admits (values : List String) (text : String) : Criterion → Prop
  | .pattern _ => Glob likeWild (values.headD "") text
  | .types => text ∈ values
  | .system => text ∉ values

def Filter.Demands (f : Filter) (system : List String) (k : Kind) (row : k.Row)
    (criterion : Criterion) : Prop :=
  ∀ get, k.reads criterion = some get → f.values system criterion ≠ [] →
    criterion.Admits (f.values system criterion) (get row)

theorem Filter.demands_pattern_iff {row : k.Row} {a : Attribute} :
    f.Demands system k row (.pattern a) ↔
      ∀ get, k.governed a = some get → Finds (f.pattern a) (get row) := by
  unfold Demands Criterion.Admits Kind.reads Finds
  by_cases empty : f.pattern a = ""
  · simp [values_pattern, empty]
  · simp [values_pattern, empty]

theorem Filter.demands_system_iff {row : k.Row} :
    f.Demands system k row .system ↔
      (f.withSystem = false → k ≠ .catalogs → Entity.schema row ∉ system) := by
  unfold Demands Criterion.Admits Kind.reads
  cases wanted : f.withSystem <;> cases system <;> simp [values, wanted]

theorem Filter.demands_iff {row : k.Row} :
    (∀ criterion, f.Demands system k row criterion) ↔
      f.Admits k row ∧ (f.withSystem = false → k ≠ .catalogs → Entity.schema row ∉ system) := by
  rw [admits_iff_governed]
  constructor
  · intro demands
    exact ⟨⟨fun a => demands_pattern_iff.1 (demands (.pattern a)), demands .types⟩,
      demands_system_iff.1 (demands .system)⟩
  · rintro ⟨⟨attributes, type⟩, hidden⟩ criterion
    cases criterion with
    | pattern a => exact demands_pattern_iff.2 (attributes a)
    | types => exact type
    | system => exact demands_system_iff.2 hidden

/-- The row holds a text in every column of a clause. -/
def Record.Texts (r : Record) (clauses : List Clause) : Prop :=
  ∀ clause ∈ clauses, ∃ t, r clause.column = some (.text t)

namespace Criterion

theorem holds_clause_iff (criterion : Criterion) {column t : String}
    (held : r column = some (.text t)) (values : List String) :
    (criterion.clause column values).holds Text.Like.isMatch r = true ↔
      criterion.Admits values t := by
  cases criterion with
  | pattern a =>
    simp only [clause, Clause.holds, held, Value?.text, Admits, Text.Like.isMatch_iff_glob]
  | types => simp only [clause, Clause.holds, held, Admits, List.contains_iff_mem]
  | system =>
    simp only [clause, Clause.holds, held, Admits, Bool.not_eq_true', List.contains_eq_mem,
      decide_eq_false_iff_not]

/-- The clause that a criterion makes, if any, accepts the row if and only if its entity is as
demanded. -/
theorem holds_iff_demands (asked : Asked k f) (texts : r.Texts (k.filterColumns.clauses f system))
    (criterion : Criterion) :
    (∀ clause, k.filterColumns.clause? f system criterion = some clause →
        clause.holds Text.Like.isMatch r = true) ↔
      f.Demands system k (k.ofRecord f r) criterion := by
  by_cases asks : f.values system criterion = []
  · have idle : k.filterColumns.clause? f system criterion = none :=
      FilterColumns.clause?_eq_none_iff.2 (.inr asks)
    refine iff_of_true (fun clause made => ?_) fun _ _ asks' => absurd asks asks'
    exact absurd (idle.symm.trans made) nofun
  · have both := asked.isSome_reads asks
    cases mapped : k.filterColumns.column? criterion with
    | none =>
      have idle : k.filterColumns.clause? f system criterion = none :=
        FilterColumns.clause?_eq_none_iff.2 (.inl mapped)
      refine iff_of_true (fun clause made => ?_) fun get reads => ?_
      · exact absurd (idle.symm.trans made) nofun
      · rw [mapped, reads] at both
        cases both
    | some column =>
      rw [mapped] at both
      obtain ⟨get, reads⟩ := Option.isSome_iff_exists.1 both.symm
      have made := FilterColumns.clause?_eq_some_iff.2 ⟨column, mapped, asks, rfl⟩
      obtain ⟨t, held⟩ := texts _ (FilterColumns.mem_clauses_iff.2 ⟨criterion, made⟩)
      rw [column_clause] at held
      have read := asked.reads_ofRecord (r := r) asks mapped reads
      rw [held] at read
      have accepts := criterion.holds_clause_iff held (f.values system criterion)
      constructor
      · intro holds get' reads' _
        rw [reads] at reads'
        cases reads'
        rw [read]
        exact accepts.1 (holds _ made)
      · intro demands clause made'
        rw [made] at made'
        cases made'
        have demanded := demands get reads asks
        rw [read] at demanded
        exact accepts.2 demanded

end Criterion

/-! ## Statements -/

namespace Kind

theorem all_holds_iff (asked : Asked k f) (texts : r.Texts (k.filterColumns.clauses f system)) :
    (k.filterColumns.clauses f system).all (Clause.holds Text.Like.isMatch r) = true ↔
      f.Admits k (k.ofRecord f r) ∧
        (f.withSystem = false → k ≠ .catalogs → Entity.schema (k.ofRecord f r) ∉ system) := by
  rw [← Filter.demands_iff, List.all_eq_true]
  constructor
  · intro all criterion
    refine (Criterion.holds_iff_demands asked texts criterion).1 fun clause made => ?_
    exact all clause (FilterColumns.mem_clauses_iff.2 ⟨criterion, made⟩)
  · intro demands clause listed
    obtain ⟨criterion, made⟩ := FilterColumns.mem_clauses_iff.1 listed
    exact (Criterion.holds_iff_demands asked texts criterion).2 (demands criterion) clause made

theorem read_condition (k : Kind) (e : Engine) (f : Filter) (system : List String) :
    Condition.read e ((k.filterColumns.clauses f system).flatMap Clause.binds)
        (CatalogQuery.conditionText e (k.filterColumns.clauses f system)) =
      some (k.filterColumns.clauses f system) := by
  refine Condition.read_conditionText (fun clause listed c spelled => ?_) fun clause listed => ?_
  · obtain ⟨criterion, made⟩ := FilterColumns.mem_clauses_iff.1 listed
    have plain := isColumnChar_of_column? (FilterColumns.column?_of_clause? made) c spelled
    exact Condition.isSolid_of_isColumnChar plain
  · exact FilterColumns.binds_ne_nil listed

end Kind

theorem Describer.shows_iff {d : Describer} (schemas : d.config.systemSchemas = .ofList system)
    {showSystem : Bool} {row : k.Row} :
    d.shows showSystem row = true ↔ (showSystem = false → Entity.schema row ∉ system) := by
  have listed :
      d.config.isSystemSchema (Entity.schema row) = true ↔ Entity.schema row ∈ system := by
    unfold Config.isSystemSchema
    rw [schemas, NameSet.contains_iff, NameSet.mem_ofList]
  unfold shows
  cases showSystem <;> simp [← listed]

/-- The condition of a statement, read with the values bound to it, accepts a row of texts if and
only if a snapshot admits its entity and this is left when rows of the system schemas are hidden.
This holds for every filter that a command asks with; catalogs are in no schema and never hidden. -/
theorem Kind.statement_selects (k : Kind) (e : Engine) (f : Filter) (system : List String)
    (r : Record)
    (text : String) (asked : Asked k f) (texts : r.Texts (k.filterColumns.clauses f system)) :
    let q := k.query text
    let st := q.statement e f system
    let entity := k.ofRecord f r
    (∃ condition clauses, st.text = q.opening ++ condition ++ q.ordering ∧
      Condition.read e st.binds condition = some clauses ∧
      (clauses.all (Clause.holds Text.Like.isMatch r) = true ↔
        f.Admits k entity ∧
          (f.withSystem = false → k ≠ .catalogs → Entity.schema entity ∉ system)) ∧
      ∀ d : Describer, d.config.systemSchemas = .ofList system →
        (clauses.all (Clause.holds Text.Like.isMatch r) = true ↔
          f.accepts k entity = true ∧ (k ≠ .catalogs → d.shows f.withSystem entity = true))) ∧
    ∀ (c : MetaCommand) (d : Describer), ¬c.Overridden d.config →
      (c.dialogue d).AsksOnly Asked := by
  intro q st entity
  refine ⟨⟨_, _, q.text_statement e f system, k.read_condition e f system,
    Kind.all_holds_iff asked texts, fun d schemas => ?_⟩, MetaCommand.asksOnly_dialogue⟩
  rw [Filter.accepts_iff, Describer.shows_iff schemas]
  refine (Kind.all_holds_iff asked texts).trans (and_congr_right fun _ => ?_)
  exact ⟨fun outside schema hidden => outside hidden schema,
    fun outside hidden schema => outside schema hidden⟩

/-- A view that matches the pattern, outside the system schema. -/
theorem Kind.statement_selects_view :
    let f : Filter := { schema := "main", name := "hits%", types := ⟨["TABLE", "VIEW"], by decide⟩ }
    let r : Record := fun column =>
      some (.text (if column = "table_name" then "hits_daily"
        else if column = "table_type" then "VIEW" else "main"))
    let q := Kind.query .tables "SELECT * FROM relations"
    Asked .tables f ∧ r.Texts ((filterColumns .tables).clauses f ["sys"]) ∧
      ∃ condition clauses,
        (q.statement .postgres f ["sys"]).text = q.opening ++ condition ++ q.ordering ∧
        Condition.read .postgres (q.statement .postgres f ["sys"]).binds condition = some clauses ∧
        clauses.all (Clause.holds Text.Like.isMatch r) = true := by
  intro f r q
  have asked : Asked .tables f := .inl (.tables "main" "hits%" f.types false)
  have texts : r.Texts ((filterColumns .tables).clauses f ["sys"]) := fun clause _ => ⟨_, rfl⟩
  obtain ⟨⟨condition, clauses, text, read, accepts, -⟩, -⟩ :=
    statement_selects .tables .postgres f ["sys"] r "SELECT * FROM relations" asked texts
  have admits : f.Admits .tables (ofRecord f .tables r) := Filter.accepts_iff.1 (by decide)
  exact ⟨asked, texts, condition, clauses, text, read, accepts.2 ⟨admits, fun _ _ => by decide⟩⟩

end CatalogReport
