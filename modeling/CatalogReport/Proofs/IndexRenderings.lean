import CatalogReport.Proofs.PartPlaces

/-!
# Two renderings of an index

The line of an index in the summary of its table names its columns, and a report of its own has a
row for each of them. Both ask for the columns by the names of the index, but only the line asks for
its catalog (`select_indexColumnsOf`), so the report also has the columns of an index of the same
names in another catalog. Where there is none the two agree (`Renders`).
-/

namespace CatalogReport

namespace Describer

/-! ## Joined names -/

/-- How long names are together, with two characters more for each. -/
def room : List String → Nat
  | [] => 0
  | name :: names => name.length + 2 + room names

theorem length_joined {names : List String} (h : names ≠ []) :
    (", ".intercalate names).length + 2 = room names := by
  induction names with
  | nil => exact absurd rfl h
  | cons name names ih =>
    cases names with
    | nil => simp [room]
    | cons next names =>
      have comma : ", ".length = 2 := rfl
      rw [String.intercalate_cons_cons, String.length_append, String.length_append, room,
        ← ih (List.cons_ne_nil _ _), comma]
      omega

theorem room_of_sublist {names all : List String} (h : names.Sublist all) :
    room names + 2 * all.length ≤ room all + 2 * names.length := by
  induction h with
  | slnil => exact Nat.le_refl _
  | cons name _ ih =>
    simp only [room, List.length_cons]
    omega
  | cons_cons name _ ih =>
    simp only [room, List.length_cons]
    omega

/-- Only one empty name can be left out without a trace. -/
theorem joined_eq_iff_of_sublist {names all : List String} (h : names.Sublist all) :
    ", ".intercalate names = ", ".intercalate all ↔ names = all ∨ (names = [] ∧ all = [""]) := by
  constructor
  · intro same
    cases names with
    | nil =>
      cases all with
      | nil => exact .inl rfl
      | cons name rest =>
        have long := length_joined (List.cons_ne_nil name rest)
        have short : (", ".intercalate (name :: rest)).length = 0 := by
          rw [← same]
          rfl
        rw [short, room] at long
        have empty : name = "" := String.length_eq_zero_iff.1 (by omega)
        cases rest with
        | nil => exact .inr ⟨rfl, by rw [empty]⟩
        | cons next rest =>
          rw [room] at long
          omega
    | cons name names =>
      have fewer := room_of_sublist h
      have lengths := congrArg String.length same
      have left := length_joined (List.cons_ne_nil name names)
      have right := length_joined (List.ne_nil_of_mem (h.subset List.mem_cons_self))
      exact .inl (h.eq_of_length (Nat.le_antisymm h.length_le (by omega)))
  · rintro (rfl | ⟨rfl, rfl⟩)
    · rfl
    · rfl

/-! ## Columns of one catalog -/

/-- Whether the catalog of an index stands for that of a column. -/
def inCatalogOf (i : Index) (c : IndexColumn) : Bool :=
  Text.Like.accepts i.catalog c.catalog

theorem accepts_indexColumnsOf (i : Index) (c : IndexColumn) :
    (indexColumnsOf i).accepts .indexColumns c =
      ((indexColumnsAnywhere i).accepts .indexColumns c && inCatalogOf i c) := by
  rw [Bool.eq_iff_iff]
  simp [Filter.accepts, Attribute.all, Kind.governed, Kind.typeOf, Filter.pattern, indexColumnsOf,
    indexColumnsAnywhere, Filter.like_accepts_empty, inCatalogOf, and_comm]

theorem inCatalogOf_eq_of_key_eq (i : Index) (a b : IndexColumn) (h : Entity.key a = Entity.key b) :
    inCatalogOf i a = inCatalogOf i b := by
  injection h with catalog _
  rw [inCatalogOf, inCatalogOf, catalog]

end Describer

/-- Indexes with one key are accepted by the same filters without types. -/
theorem Filter.accepts_indexes_congr {f : Filter} (untyped : f.types = .empty) {a b : Index}
    (h : Entity.key a = Entity.key b) : f.accepts .indexes a = f.accepts .indexes b := by
  injection h with catalog h
  injection h with schema h
  injection h with table h
  injection h with name _
  simp [Filter.accepts, Attribute.all, Kind.governed, Kind.typeOf, Filter.acceptsType, untyped,
    NameSet.isEmpty, NameSet.empty, catalog, schema, table, name]

namespace Snapshot

open Describer

variable (s : Snapshot)

theorem select_indexColumnsOf (i : Index) :
    s.select .indexColumns (indexColumnsOf i) =
      (s.select .indexColumns (indexColumnsAnywhere i)).filter (inCatalogOf i) := by
  rw [s.filter_select (k := .indexColumns) (inCatalogOf_eq_of_key_eq i)]
  simp only [← accepts_indexColumnsOf]
  rfl

theorem select_eq_nil_iff (k : Kind) (f : Filter) :
    s.select k f = [] ↔ ∀ row ∈ s.rows k, ¬f.Admits k row := by
  have none_left : (∀ row ∈ s.select k f, false = true) ↔
      ∀ row ∈ s.rows k, f.accepts k row = true → false = true :=
    s.forall_mem_select_iff (fun _ _ _ => rfl) f
  simp only [Bool.false_eq_true, imp_false, Filter.accepts_iff] at none_left
  rw [List.eq_nil_iff_forall_not_mem, none_left]

/-- What the line of an index lists of its columns and what its own report does. The line has those
whose catalog the catalog of the index stands for. -/
structure Renders (i : Index) (line own : List IndexColumn) : Prop where
  within : line = own.filter (inCatalogOf i)
  /-- The names are the same if no column of the names of the index is in another catalog. -/
  names_iff : line.map (·.name) = own.map (·.name) ↔
    ∀ c ∈ s.indexColumns, (indexColumnsAnywhere i).Admits .indexColumns c →
      i.catalog ≠ "" → Glob likeWild i.catalog c.catalog
  /-- The text of the line does not tell no column from one without a name. -/
  text_iff : ", ".intercalate (line.map (·.name)) = ", ".intercalate (own.map (·.name)) ↔
    line = own ∨ (line = [] ∧ own.map (·.name) = [""])
  silent_iff : (line = [] → own = []) ↔
    (∃ c ∈ s.indexColumns, (indexColumnsOf i).Admits .indexColumns c) ∨
      ∀ c ∈ s.indexColumns, ¬(indexColumnsAnywhere i).Admits .indexColumns c
  one_catalog : (i.catalog = "" ∨ ∀ c ∈ s.indexColumns, c.catalog = i.catalog) → line = own

theorem select_indexColumnsOf_eq_iff (i : Index) :
    s.select .indexColumns (indexColumnsOf i) = s.select .indexColumns (indexColumnsAnywhere i) ↔
      ∀ c ∈ s.indexColumns, (indexColumnsAnywhere i).Admits .indexColumns c →
        i.catalog ≠ "" → Glob likeWild i.catalog c.catalog := by
  have all := s.forall_mem_select_iff (k := .indexColumns) (inCatalogOf_eq_of_key_eq i)
    (indexColumnsAnywhere i)
  simp only [Filter.accepts_iff, inCatalogOf, Filter.like_accepts_iff, Filter.Finds] at all
  rw [select_indexColumnsOf, List.filter_eq_self]
  simp only [inCatalogOf, Filter.like_accepts_iff, Filter.Finds]
  exact all

theorem silent_select_iff (i : Index) :
    (s.select .indexColumns (indexColumnsOf i) = [] →
      s.select .indexColumns (indexColumnsAnywhere i) = []) ↔
    (∃ c ∈ s.indexColumns, (indexColumnsOf i).Admits .indexColumns c) ∨
      ∀ c ∈ s.indexColumns, ¬(indexColumnsAnywhere i).Admits .indexColumns c := by
  rw [select_eq_nil_iff, select_eq_nil_iff]
  constructor
  · intro silent
    by_cases some_column : ∃ c ∈ s.indexColumns, (indexColumnsOf i).Admits .indexColumns c
    · exact .inl some_column
    · exact .inr (silent fun c stored admits => some_column ⟨c, stored, admits⟩)
  · rintro (⟨c, stored, admits⟩ | none_at_all) nothing
    · exact absurd admits (nothing c stored)
    · exact none_at_all

theorem renders_select (i : Index) :
    s.Renders i (s.select .indexColumns (indexColumnsOf i))
      (s.select .indexColumns (indexColumnsAnywhere i)) := by
  have within := s.select_indexColumnsOf i
  have same_iff := s.select_indexColumnsOf_eq_iff i
  have sublist : (s.select .indexColumns (indexColumnsOf i)).Sublist
      (s.select .indexColumns (indexColumnsAnywhere i)) := within ▸ List.filter_sublist
  have names_iff : (s.select .indexColumns (indexColumnsOf i)).map (IndexColumn.name ·) =
      (s.select .indexColumns (indexColumnsAnywhere i)).map (IndexColumn.name ·) ↔
        s.select .indexColumns (indexColumnsOf i) =
          s.select .indexColumns (indexColumnsAnywhere i) :=
    ⟨fun same => sublist.eq_of_length (by simpa using congrArg List.length same),
      fun same => by rw [same]⟩
  refine ⟨within, names_iff.trans same_iff, ?_, s.silent_select_iff i, ?_⟩
  · rw [joined_eq_iff_of_sublist (sublist.map _), names_iff, List.map_eq_nil_iff]
  · rintro (uncatalogued | one)
    · exact same_iff.2 fun _ _ _ catalogued => absurd uncatalogued catalogued
    · refine same_iff.2 fun c stored _ _ => ?_
      rw [one c stored]
      exact glob_self i.catalog

/-! ## Indexes that are shown twice -/

/-- Whatever it is asked for by, of the indexes with one key it is the one that is stored first. -/
theorem find?_of_mem_select {f : Filter} (untyped : f.types = .empty) {i : Index}
    (h : i ∈ s.select .indexes f) :
    s.indexes.find? (fun other => Entity.key other = Entity.key i) = some i := by
  have found := (Entity.mem_distinctFrom_iff.1 h).2
  have accepted := (s.mem_of_mem_select h).2
  unfold Kind.inPosition Kind.position at found
  rw [List.find?_filter] at found
  rw [← found]
  refine congrArg (List.find? · s.indexes) (funext fun other => ?_)
  rw [decide_eq_decide, decide_eq_true_eq]
  refine ⟨fun same => ⟨?_, same⟩, And.right⟩
  rw [Filter.accepts_indexes_congr untyped same, accepted]

theorem eq_of_mem_select {f g : Filter} (untyped : f.types = .empty) (untyped' : g.types = .empty)
    {i j : Index} (hi : i ∈ s.select .indexes f) (hj : j ∈ s.select .indexes g)
    (same : Entity.key j = Entity.key i) : j = i := by
  have first := s.find?_of_mem_select untyped hi
  have first' := s.find?_of_mem_select untyped' hj
  rw [same, first] at first'
  exact (Option.some.inj first').symm

end Snapshot

namespace Describer

variable (d : Describer) (s : Snapshot) (declined : Capabilities)

theorem mem_select_of_mem_served {k : Kind} {f : Filter} {row : k.Row}
    (h : row ∈ (d.served s declined k f).getD []) : row ∈ s.select k f := by
  unfold served at h
  split at h
  · exact h
  · cases h

theorem mem_select_of_mem_sectionRows {schema table : String} {i : Index}
    (h : i ∈ d.sectionRows s declined schema table .indexes) :
    i ∈ s.select .indexes (partsOf schema table) :=
  d.mem_select_of_mem_served s declined (List.mem_filter.1 h).1

theorem mem_select_of_mem_describedIndexes {f : Filter} {showSystem : Bool} {i : Index}
    (h : i ∈ d.describedIndexes s declined f showSystem) : i ∈ s.select .indexes f := by
  have matched := (List.mem_filter.1 h).1
  unfold matchedIndexes at matched
  split at matched
  · exact d.mem_select_of_mem_served s declined (List.mem_filter.1 matched).1
  · cases matched

/-- When index columns are served, the line of an index under its table names the columns that the
catalog of the index stands for, out of those that its own report has a row for. The two name the
same columns just when no column of an index of these names is stored in another catalog; an index
whose line names none has no report just when a column is in its catalog or there is none in any. An
index that has a report under any pattern is the one that has the line. -/
theorem run_index_renderings (s : Snapshot) (offers declined : Capabilities) (config : Config)
    (pattern : String) (verbose showSystem : Bool) (encoder : Encoder) (tally : Tally)
    (sink : Sink) :
    let r := s.reader offers declined
    let d : Describer := .ofReader r config
    let run := (d.describeRelations pattern verbose showSystem).run r encoder tally sink
    let documents := d.relationDocuments s declined pattern verbose showSystem
    (sink.limit = none → run.1 = .ok ()) ∧
    (run.1 = .ok () → run.2.2.text = sink.text ++ encoder.encodeAll documents) ∧
    (d.serves declined .indexColumns = true →
      ∀ schema table (i : Index), i ∈ d.sectionRows s declined schema table .indexes → ∃ line own,
        Section.indexes.line i (d.sectionColumns s declined .indexes i) =
          "  \"" ++ i.name ++ "\" " ++ (if i.isPrimary then "PRIMARY_KEY, " else "") ++
            (if i.isUnique then "UNIQUE, " else "") ++ i.type ++
              " (" ++ ", ".intercalate (line.map (IndexColumn.name ·)) ++ ")" ∧
        d.indexReport s declined i =
          [.table ⟨["Name", "Type"], own.map fun c => [↑(IndexColumn.name c), ↑c.dataType]⟩
            (config.options.withTitle ("Index " ++ qualifiedName i.schema i.name)),
            .lines [indexNote i]] ∧
        s.Answers .indexColumns (indexColumnsOf i) line ∧
        s.Answers .indexColumns (indexColumnsAnywhere i) own ∧ s.Renders i line own ∧
        ∀ pattern' showSystem',
          let filter := matching pattern' showSystem'
          (i ∈ d.describedIndexes s declined filter showSystem' ↔
            i ∈ d.matchedIndexes s declined filter showSystem' ∧ own ≠ []) ∧
          ∀ j ∈ d.describedIndexes s declined filter showSystem',
            Entity.key j = Entity.key i → j = i) := by
  intro r d run documents
  obtain ⟨ends, written⟩ :=
    written_relationDocuments s declined offers config pattern verbose showSystem encoder tally sink
  refine ⟨ends, written, fun columns schema table i shown => ?_⟩
  have listed := d.listedColumns_of_served s declined columns i
  have own := d.columnsOf_of_served s declined columns i
  refine ⟨_, _, congrArg (indexLine i) listed, ?_, Snapshot.answers_iff.2 rfl,
    Snapshot.answers_iff.2 rfl, s.renders_select i, fun pattern' showSystem' => ?_⟩
  · rw [indexReport, own]
    rfl
  · refine ⟨?_, fun j described same => ?_⟩
    · rw [describedIndexes, List.mem_filter, own]
      simp
    · exact s.eq_of_mem_select rfl rfl (d.mem_select_of_mem_sectionRows s declined shown)
        (d.mem_select_of_mem_describedIndexes s declined described) same

/-- An index with a column of its own and one of an index of its names in another catalog: the line
names the first, the report has both. -/
theorem run_index_renderings_twoCatalogs :
    let i : Index := { catalog := "c", name := "i", table := "t", type := "btree" }
    let s : Snapshot := {
      tables := [{ catalog := "c", name := "t" }]
      indexes := [i]
      indexColumns := [
        { catalog := "c", table := "t", indexName := "i", name := "a", ordinalPosition := 1 },
        { catalog := "other", table := "t", indexName := "i", name := "b", ordinalPosition := 2 }] }
    let r := s.reader .all .none
    let d : Describer := .ofReader r {}
    ((d.describeRelations "*" false false).run r .table [] {}).1 = .ok () ∧
      i ∈ d.sectionRows s .none "" "t" .indexes ∧
      ∃ line own, s.Renders i line own ∧ line.map (·.name) ≠ own.map (·.name) := by
  intro i s r d
  obtain ⟨ends, -, indexes⟩ := run_index_renderings s .all .none {} "*" false false .table [] {}
  have shown : i ∈ d.sectionRows s .none "" "t" .indexes := by
    have accepted : (partsOf "" "t").accepts .indexes i = true := by decide +kernel
    refine List.mem_filter.2 ⟨?_, rfl⟩
    show i ∈ s.select .indexes (partsOf "" "t")
    rw [s.select_eq_filter rfl (List.pairwise_singleton _ _)]
    exact List.mem_filter.2 ⟨List.mem_cons_self, accepted⟩
  obtain ⟨line, own, -, -, -, -, renders, -⟩ := indexes rfl "" "t" i shown
  refine ⟨ends rfl, shown, line, own, renders, fun same => ?_⟩
  have stands := renders.names_iff.1 same
    { catalog := "other", table := "t", indexName := "i", name := "b", ordinalPosition := 2 }
    (by simp [s]) (by decide +kernel) (by decide)
  have literal : Literal "c" := by decide
  exact absurd (literal.glob_iff.1 stands) (by decide)

end Describer

end CatalogReport
