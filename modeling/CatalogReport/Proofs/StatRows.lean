import CatalogReport.Proofs.DescribedRelations
import CatalogReport.Proofs.NamesAsPatterns

/-!
# Shares of distinct values

The statistics that a pattern names may be of several tables, and their shares are all taken of the
rows of one: the first stored table that the pattern names (`IsRowsOfFirst`). So a share is of the
rows of its own table when the pattern names no other table, as a literal schema and a literal name
do.
-/

namespace CatalogReport

/-! ## What a pattern names -/

/-- Both parts of the pattern that are not empty stand for the schema and the name. -/
def Pattern.Names (p : Pattern) (schema name : String) : Prop :=
  (p.schema ≠ "" → Glob likeWild p.schema schema) ∧ (p.name ≠ "" → Glob likeWild p.name name)

namespace Describer

theorem accepts_matching_iff (pattern : String) (showSystem : Bool) (t : Table) :
    (matching pattern showSystem).accepts .tables t = true ↔
      (Pattern.parse pattern).Names t.schema t.name := by
  simp [Filter.accepts, Attribute.all, Kind.governed, Kind.typeOf, Filter.pattern, matching,
    Filter.ofPattern, Filter.acceptsType, NameSet.isEmpty, NameSet.empty, Filter.like_accepts_empty,
    Filter.like_accepts_iff, Filter.Finds, Pattern.Names]

theorem accepts_statsOf_iff (pattern : String) (verbose : Bool) (stat : ColumnStat) :
    (statsOf pattern verbose).accepts .columnStats stat = true ↔
      (Pattern.parse pattern).Names stat.schema stat.table := by
  simp [Filter.accepts, Attribute.all, Kind.governed, Kind.typeOf, Filter.pattern, statsOf,
    Filter.like_accepts_empty, Filter.like_accepts_iff, Filter.Finds, Pattern.Names]

end Describer

/-! ## Rows that shares are taken of -/

namespace Snapshot

variable (s : Snapshot)

/-- The rows of the first stored table that a pattern names; none when it names no table. -/
inductive IsRowsOfFirst (p : Pattern) : Int64 → Prop where
  | none (h : ∀ t ∈ s.tables, ¬p.Names t.schema t.name) : IsRowsOfFirst p 0
  | first (before after : List Table) (t : Table) (stored : s.tables = before ++ t :: after)
    (passed : ∀ u ∈ before, ¬p.Names u.schema u.name) (named : p.Names t.schema t.name) :
    IsRowsOfFirst p t.rows

/-- The rows of a stored table with the schema and the table of a statistic; none when there is no
such table. -/
def IsOwnRows (stat : ColumnStat) (rows : Int64) : Prop :=
  (∃ t ∈ s.tables, t.schema = stat.schema ∧ t.name = stat.table ∧ t.rows = rows) ∨
    ((∀ t ∈ s.tables, ¬(t.schema = stat.schema ∧ t.name = stat.table)) ∧ rows = 0)

variable {s} {p : Pattern} {rows : Int64}

/-- A pattern that names the statistic and no table of other names leads to its own rows. -/
theorem IsRowsOfFirst.isOwnRows (h : s.IsRowsOfFirst p rows) {stat : ColumnStat}
    (named : p.Names stat.schema stat.table)
    (alone : ∀ t ∈ s.tables, p.Names t.schema t.name → t.schema = stat.schema ∧
      t.name = stat.table) :
    s.IsOwnRows stat rows := by
  cases h with
  | none missing =>
    refine .inr ⟨fun t stored same => missing t stored ?_, rfl⟩
    rw [same.1, same.2]
    exact named
  | first before after t stored passed found =>
    have mem : t ∈ s.tables := by simp [stored]
    obtain ⟨schema, table⟩ := alone t mem found
    exact .inl ⟨t, mem, schema, table, rfl⟩

end Snapshot

theorem Pattern.Names.eq_of_literal {p : Pattern} {schema name : String}
    (literalSchema : Literal p.schema) (literalName : Literal p.name) (h : p.Names schema name) :
    schema = p.schema ∧ name = p.name :=
  ⟨literalSchema.glob_iff.1 (h.1 literalSchema.1), literalName.glob_iff.1 (h.2 literalName.1)⟩

namespace Describer

variable (d : Describer) (s : Snapshot) (declined : Capabilities)

/-! ## Runs -/

theorem answered_rowsOfFirst (pattern : String) (h : d.serves declined .tables = true) :
    ∃ rows, s.IsRowsOfFirst (Pattern.parse pattern) rows ∧
      (d.rowsOfFirst pattern).answered (s.answer declined) = .done rows := by
  have served : d.served s declined .tables (matching pattern true) =
      some (Entity.distinct (s.tables.filter ((matching pattern true).accepts .tables))) := if_pos h
  unfold rowsOfFirst
  rw [Dialogue.answered_bind, Dialogue.answered_within, answered_optional, served]
  cases found : s.tables.filter ((matching pattern true).accepts .tables) with
  | nil =>
    refine ⟨0, .none fun t stored => ?_, rfl⟩
    rw [← accepts_matching_iff pattern true]
    exact List.filter_eq_nil_iff.1 found t stored
  | cons t rest =>
    obtain ⟨before, after, stored, passed, named, -⟩ := List.filter_eq_cons_iff.1 found
    refine ⟨t.rows, .first before after t stored (fun u listed => ?_) ?_, ?_⟩
    · rw [← accepts_matching_iff pattern true]
      exact passed u listed
    · exact (accepts_matching_iff pattern true t).1 named
    · rw [Entity.distinct, Entity.distinctFrom_cons_of_not_mem List.not_mem_nil]
      rfl

def statDocument (pattern : String) (verbose : Bool) (k : Nat) (rows : Int64)
    (stats : List ColumnStat) : Document :=
  if stats.isEmpty then notFoundDocument pattern
  else .table ⟨statHeaders verbose, stats.map (statCells verbose k rows)⟩ (d.titled "Column stats")

theorem tells_showStats (pattern : String) (verbose : Bool) (k : Nat)
    (tables : d.serves declined .tables = true) (stats : d.serves declined .columnStats = true) :
    ∃ rows, s.IsRowsOfFirst (Pattern.parse pattern) rows ∧
      (d.showStats pattern verbose k).Tells (s.answer declined) ()
        [d.statDocument pattern verbose k rows
          (s.select .columnStats (statsOf pattern verbose))] := by
  obtain ⟨rows, first, counted⟩ := d.answered_rowsOfFirst s declined pattern tables
  refine ⟨rows, first, ?_⟩
  have offered : d.offers.has .columnStats = true := by
    simp only [serves, Bool.and_eq_true] at stats
    exact stats.1
  have listed := d.answered_primary s declined "\\ss" .columnStats (statsOf pattern verbose)
    "failed to get column stats"
  rw [if_pos stats] at listed
  unfold showStats
  rw [d.require_of_offered "\\ss" offered]
  refine (Dialogue.tells_of_answered counted).bind ((Dialogue.tells_of_answered listed).bind ?_)
  unfold statDocument
  by_cases empty : (s.select .columnStats (statsOf pattern verbose)).isEmpty = true
  · rw [if_pos empty, if_pos empty]
    exact Dialogue.tells_put _
  · rw [if_neg empty, if_neg empty]
    exact Dialogue.tells_put _

theorem share_cell (verbose : Bool) (k : Nat) (rows : Int64) (stat : ColumnStat) :
    (statHeaders verbose)[6]? = some "Dist. fraction" ∧
      (statCells verbose k rows stat)[6]? =
        some (.text (distinctFraction stat.numDistinct rows)) := by
  cases verbose <;> exact ⟨rfl, rfl⟩

/-- When tables and column statistics are served, the statistics that a pattern names are shown,
each with a share of distinct values that is taken of the rows of the first stored table that the
pattern names. These are the rows of the table that a statistic is about if the pattern names no
table of another schema or name, and so whenever its schema and its name are literal. -/
theorem run_showStats (s : Snapshot) (offers declined : Capabilities) (config : Config)
    (pattern : String) (verbose : Bool) (k : Nat) (encoder : Encoder) (tally : Tally)
    (sink : Sink) :
    let r := s.reader offers declined
    let d : Describer := .ofReader r config
    let run := (d.showStats pattern verbose k).run r encoder tally sink
    let p := Pattern.parse pattern
    d.serves declined .tables = true → d.serves declined .columnStats = true →
      ∃ (rows : Int64) (stats : List ColumnStat),
        s.IsRowsOfFirst p rows ∧ s.Answers .columnStats (statsOf pattern verbose) stats ∧
        (sink.limit = none → run.1 = .ok ()) ∧
        (run.1 = .ok () → run.2.2.text = sink.text ++ encoder.encode
          (if stats.isEmpty then notFoundDocument pattern
          else .table ⟨statHeaders verbose, stats.map (statCells verbose k rows)⟩
            (config.options.withTitle "Column stats"))) ∧
        ∀ stat ∈ stats,
          (statHeaders verbose)[6]? = some "Dist. fraction" ∧
          (statCells verbose k rows stat)[6]? =
            some (.text (distinctFraction stat.numDistinct rows)) ∧
          ((∀ t ∈ s.tables, p.Names t.schema t.name → t.schema = stat.schema ∧
            t.name = stat.table) →
            s.IsOwnRows stat rows) ∧
          (Literal p.schema → Literal p.name → s.IsOwnRows stat rows) := by
  intro r d run p tables served
  obtain ⟨rows, first, tells⟩ := d.tells_showStats s declined pattern verbose k tables served
  obtain ⟨ends, written⟩ := tells.run_document
    (d.writes_proper.showStats pattern verbose k (d.proper_require _ _))
    (s.steady_reader offers declined) encoder tally sink
  refine ⟨rows, s.select .columnStats (statsOf pattern verbose), first, Snapshot.answers_iff.2 rfl,
    ends, written, fun stat listed => ?_⟩
  have named := (accepts_statsOf_iff pattern verbose stat).1 (s.mem_of_mem_select listed).2
  obtain ⟨header, cell⟩ := share_cell verbose k rows stat
  refine ⟨header, cell, first.isOwnRows named, fun literalSchema literalName => ?_⟩
  refine first.isOwnRows named fun t _ found => ?_
  obtain ⟨schema, table⟩ := named.eq_of_literal literalSchema literalName
  obtain ⟨schema', table'⟩ := found.eq_of_literal literalSchema literalName
  exact ⟨schema'.trans schema.symm, table'.trans table.symm⟩

/-- Two tables of one name: the statistics of the second are scaled by the rows of the first, unless
the pattern names its schema. -/
theorem run_showStats_twoSchemas :
    let stat : ColumnStat := { schema := "b", table := "t", name := "c", numDistinct := 5 }
    let s : Snapshot := {
      tables :=
        [{ schema := "a", name := "t", rows := 10 }, { schema := "b", name := "t", rows := 100 }]
      columnStats := [stat] }
    let r := s.reader .all .none
    let d : Describer := .ofReader r {}
    (((d.showStats "t" false 0).run r .table [] {}).1 = .ok () ∧
      ∃ rows, s.IsRowsOfFirst (Pattern.parse "t") rows ∧ ¬s.IsOwnRows stat rows) ∧
    ∃ rows, s.IsRowsOfFirst (Pattern.parse "b.t") rows ∧ s.IsOwnRows stat rows := by
  intro stat s r d
  obtain ⟨rows, stats, first, -, ends, -⟩ :=
    run_showStats s .all .none {} "t" false 0 .table [] {} rfl rfl
  obtain ⟨rows', stats', first', answer, -, -, each⟩ :=
    run_showStats s .all .none {} "b.t" false 0 .table [] {} rfl rfl
  refine ⟨⟨ends rfl, rows, first, ?_⟩, rows', first', ?_⟩
  · have named : (Pattern.parse "t").Names "a" "t" :=
      (accepts_matching_iff "t" true { schema := "a", name := "t" }).1 (by decide +kernel)
    have ten : rows = 10 := by
      cases first with
      | none missing => exact absurd named (missing _ List.mem_cons_self)
      | first before after t stored passed =>
        cases before with
        | nil => rw [← (List.cons.inj stored).1]
        | cons u before =>
          obtain ⟨rfl, -⟩ := List.cons.inj stored
          exact absurd named (passed _ List.mem_cons_self)
    rw [ten]
    rintro (⟨t, stored, schema, -, counted⟩ | ⟨-, none_counted⟩)
    · simp only [s, List.mem_cons, List.not_mem_nil, or_false] at stored
      rcases stored with rfl | rfl
      · exact absurd schema (by decide)
      · exact absurd counted (by decide)
    · exact absurd none_counted (by decide)
  · have listed : stat ∈ stats' := by
      rw [Snapshot.answers_iff.1 answer]
      have found : (statsOf "b.t" false).accepts .columnStats stat = true := by decide +kernel
      show stat ∈ Entity.distinct ([stat].filter _)
      rw [List.filter_cons_of_pos found]
      exact List.mem_cons_self
    exact (each stat listed).2.2.2 (by decide +kernel) (by decide +kernel)

end Describer

end CatalogReport
