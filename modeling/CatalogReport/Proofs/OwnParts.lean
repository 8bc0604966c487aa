import CatalogReport.Proofs.FunctionListing
import CatalogReport.Proofs.NamesAsPatterns
import CatalogReport.Proofs.TableSections

/-!
# Parts of an object

What belongs to a table or to a function is asked for by the names of the object, and these stand in
the filter as patterns. Its own parts are all in the answer and in order, but rows of other objects
are among them as soon as the names stand for theirs (`ListsParts`). With literal names the answer
is made of its own parts.
-/

namespace CatalogReport

/-! ## Owners -/

/-- The schema and the name of the table or the function that a row belongs to. -/
def Kind.owner : (k : Kind) → k.Row → Option (String × String)
  | .columns => fun (c : Column) => some (c.schema, c.table)
  | .indexes => fun (i : Index) => some (i.schema, i.table)
  | .constraints => fun (c : Constraint) => some (c.schema, c.table)
  | .triggers => fun (t : Trigger) => some (t.schema, t.table)
  | .functionColumns => fun (c : FunctionColumn) => some (c.schema, c.function)
  | _ => fun _ => none

def Kind.tableParts : List Kind :=
  [.columns, .indexes, .constraints, .triggers]

def Kind.belongs (k : Kind) (schema name : String) (row : k.Row) : Bool :=
  decide (k.owner row = some (schema, name))

/-- Whether the names, taken as patterns, stand for the names of the object that a row belongs
to. -/
def Kind.Takes (k : Kind) (schema name : String) (row : k.Row) : Prop :=
  ∃ ownSchema ownName, k.owner row = some (ownSchema, ownName) ∧
    (schema ≠ "" → Glob likeWild schema ownSchema) ∧ (name ≠ "" → Glob likeWild name ownName)

theorem Kind.owner_eq_of_key_eq {k : Kind} {a b : k.Row} (h : Entity.key a = Entity.key b) :
    k.owner a = k.owner b := by
  -- The keys of parts begin with the catalog and the names of the owner.
  cases k <;> first
    | rfl
    | (injection h with _ rest
       injection rest with schema rest
       injection rest with name _
       exact congrArg some (Prod.ext schema name))

theorem Kind.belongs_eq_of_key_eq (k : Kind) (schema name : String) (a b : k.Row)
    (h : Entity.key a = Entity.key b) : k.belongs schema name a = k.belongs schema name b := by
  unfold Kind.belongs
  rw [Kind.owner_eq_of_key_eq h]

theorem Kind.takes_of_belongs {k : Kind} {schema name : String} {row : k.Row}
    (h : k.belongs schema name row = true) : k.Takes schema name row :=
  ⟨schema, name, of_decide_eq_true h, fun _ => glob_self schema, fun _ => glob_self name⟩

theorem Kind.belongs_of_takes {k : Kind} {schema name : String} {row : k.Row}
    (literalSchema : Literal schema) (literalName : Literal name) (h : k.Takes schema name row) :
    k.belongs schema name row = true := by
  obtain ⟨ownSchema, ownName, owner, schemaStands, nameStands⟩ := h
  obtain rfl := literalSchema.glob_iff.1 (schemaStands literalSchema.1)
  obtain rfl := literalName.glob_iff.1 (nameStands literalName.1)
  exact decide_eq_true owner

/-- An object's parts are asked for by its names as patterns. -/
theorem accepts_partsOf_iff {k : Kind} (part : k ∈ Kind.tableParts) {schema name : String}
    {row : k.Row} :
    (Describer.partsOf schema name).accepts k row = true ↔ k.Takes schema name row := by
  simp only [Kind.tableParts, List.mem_cons, List.not_mem_nil, or_false] at part
  rcases part with rfl | rfl | rfl | rfl <;>
    simp [Filter.accepts, Attribute.all, Kind.governed, Kind.typeOf, Filter.pattern,
      Describer.partsOf, Filter.acceptsType, NameSet.isEmpty, NameSet.empty,
      Filter.like_accepts_empty, Filter.like_accepts_iff, Filter.Finds, Kind.Takes, Kind.owner]

theorem accepts_parametersOf_iff {f : Function} {c : FunctionColumn} :
    (Describer.parametersOf f).accepts .functionColumns c = true ↔
      (f.catalog ≠ "" → Glob likeWild f.catalog c.catalog) ∧
        Kind.functionColumns.Takes f.schema f.specificName c := by
  simp [Filter.accepts, Attribute.all, Kind.governed, Kind.typeOf, Filter.pattern,
    Describer.parametersOf, Filter.like_accepts_empty, Filter.like_accepts_iff, Filter.Finds,
    Kind.Takes, Kind.owner]

/-! ## Answers for the parts of an object -/

namespace Snapshot

variable (s : Snapshot)

/-- The parts of an object as they are stored: by place where they have one, and of those with one
key the first. -/
def partsIn (k : Kind) (schema name : String) : List k.Row :=
  Entity.distinct (k.inPosition ((s.rows k).filter (k.belongs schema name)))

/-- Rows that are listed as the parts of an object. Its own parts are among them, all and in order.
There are no others just when the names of the object stand for no other owner of a stored row, and
never when the names are literal. -/
structure ListsParts (k : Kind) (schema name : String) (rows : List k.Row) : Prop where
  own : rows.filter (k.belongs schema name) = s.partsIn k schema name
  only : (∀ row ∈ rows, k.belongs schema name row = true) ↔
    ∀ row ∈ s.rows k, k.Takes schema name row → k.belongs schema name row = true
  literal : Literal schema → Literal name → rows = s.partsIn k schema name

theorem listsParts_select {k : Kind} (part : k ∈ Kind.tableParts) (schema name : String) :
    s.ListsParts k schema name (s.select k (Describer.partsOf schema name)) := by
  have decides := k.belongs_eq_of_key_eq schema name
  have own : (s.select k (Describer.partsOf schema name)).filter (k.belongs schema name) =
      s.partsIn k schema name := by
    rw [s.filter_select decides, partsIn]
    refine congrArg _ (congrArg _ (List.filter_congr fun row _ => ?_))
    rw [Bool.and_eq_right_iff_imp]
    exact fun belongs => (accepts_partsOf_iff part).2 (Kind.takes_of_belongs belongs)
  have only : (∀ row ∈ s.select k (Describer.partsOf schema name),
      k.belongs schema name row = true) ↔
        ∀ row ∈ s.rows k, k.Takes schema name row → k.belongs schema name row = true := by
    rw [s.forall_mem_select_iff decides]
    simp only [accepts_partsOf_iff part]
  refine ⟨own, only, fun literalSchema literalName => ?_⟩
  rw [← own, List.filter_eq_self.2]
  exact only.2 fun row _ taken => Kind.belongs_of_takes literalSchema literalName taken

/-- Parameters that are listed for a function. There are only its own among them just when its names
stand for no other owner of a stored parameter of its catalog, and always when they are literal. -/
structure ListsParameters (f : Function) (parameters : List FunctionColumn) : Prop where
  only : (∀ c ∈ parameters, c.schema = f.schema ∧ c.function = f.specificName) ↔
    ∀ c ∈ s.functionColumns, (f.catalog ≠ "" → Glob likeWild f.catalog c.catalog) →
      Kind.functionColumns.Takes f.schema f.specificName c →
        c.schema = f.schema ∧ c.function = f.specificName
  literal : Literal f.schema → Literal f.specificName →
    ∀ c ∈ parameters, c.schema = f.schema ∧ c.function = f.specificName

theorem listsParameters_select (f : Function) :
    s.ListsParameters f (s.select .functionColumns (Describer.parametersOf f)) := by
  have belongs_iff (c : FunctionColumn) :
      Kind.functionColumns.belongs f.schema f.specificName c = true ↔
        c.schema = f.schema ∧ c.function = f.specificName := by
    simp [Kind.belongs, Kind.owner]
  have only := s.forall_mem_select_iff
    (Kind.functionColumns.belongs_eq_of_key_eq f.schema f.specificName) (Describer.parametersOf f)
  simp only [belongs_iff, accepts_parametersOf_iff, and_imp] at only
  refine ⟨only, fun literalSchema literalName => only.2 fun c _ _ taken => ?_⟩
  exact (belongs_iff c).1 (Kind.belongs_of_takes literalSchema literalName taken)

end Snapshot

/-! ## Reports -/

namespace Describer

def ownSections : List Section :=
  [.indexes, .checks, .foreignKeys, .triggers]

theorem sectionRows_own (d : Describer) (s : Snapshot) (declined : Capabilities)
    (schema table : String) {part : Section} (own : part ∈ ownSections)
    (h : d.serves declined part.kind = true) :
    d.sectionRows s declined schema table part =
      (s.select part.kind (partsOf schema table)).filter part.keeps := by
  have filter : part.filter schema table = partsOf schema table := by
    simp only [ownSections, List.mem_cons, List.not_mem_nil, or_false] at own
    rcases own with rfl | rfl | rfl | rfl <;> rfl
  unfold sectionRows served
  rw [if_pos h, filter]
  rfl

/-- With everything served, the report on a table is made of what is listed as its parts: the
columns in its body and the rows of the sections of its own. What is listed are all parts of the
table in their order, and parts of other tables where the names of the table stand for theirs. In
the same way the arguments of a function are made of what is listed as its parameters. -/
theorem run_own_parts (s : Snapshot) (config : Config) (pattern : String)
    (verbose showSystem : Bool) (encoder : Encoder) (tally : Tally) (sink : Sink) :
    let r := s.reader .all .none
    let d : Describer := .ofReader r config
    (let run := (d.describeRelations pattern verbose showSystem).run r encoder tally sink
      let tables := d.describedTables s .none (matching pattern showSystem) showSystem
      (sink.limit = none → run.1 = .ok ()) ∧
      (run.1 = .ok () → ∃ later, run.2.2.text = sink.text ++ encoder.encodeAll
        (tables.flatMap fun t =>
          d.columnListing s .none verbose t :: d.summaryDocuments s .none t) ++ later) ∧
      ∀ t ∈ tables,
        let listed (k : Kind) := s.select k (partsOf t.schema t.name)
        d.columnListing s .none verbose t =
          .table ⟨columnHeaders verbose, (listed .columns).map (columnCells verbose)⟩
            (config.options.withTitle (t.type ++ " " ++ qualifiedName t.schema t.name)) ∧
        (∀ part ∈ ownSections,
          d.sectionRows s .none t.schema t.name part = (listed part.kind).filter part.keeps) ∧
        ∀ k ∈ Kind.tableParts, s.ListsParts k t.schema t.name (listed k)) ∧
    ∀ codes,
      let run := (d.listFunctions codes pattern verbose showSystem).run r encoder tally sink
      let functions := d.shownFunctions showSystem
        (s.select .functions (d.functionsOf codes pattern showSystem))
      let listed (f : Function) := s.select .functionColumns (parametersOf f)
      (sink.limit = none → run.1 = .ok ()) ∧
      (run.1 = .ok () → run.2.2.text = sink.text ++ encoder.encode (.table ⟨functionHeaders verbose,
        functions.map fun f => functionCells verbose { f with argTypes := argumentText (listed f) }⟩
        (config.options.withTitle "List of functions"))) ∧
      ∀ f ∈ functions, s.ListsParameters f (listed f) := by
  intro r d
  refine ⟨?_, fun codes => ?_⟩
  · obtain ⟨ends, written⟩ :=
      written_describeRelations s .none .all config pattern verbose showSystem encoder tally sink
    refine ⟨ends, written, fun t _ => ⟨rfl, fun part own => ?_, fun k part => ?_⟩⟩
    · exact d.sectionRows_own s .none t.schema t.name own rfl
    · exact s.listsParts_select part t.schema t.name
  · obtain ⟨ends, written⟩ := written_listFunctions s .none .all config codes pattern verbose
      showSystem encoder tally sink rfl
    exact ⟨ends, written, fun f _ => s.listsParameters_select f⟩

/-- Of two tables one has a name that stands for the other: both columns are listed for the one, and
its own for the other. -/
theorem run_own_parts_underscore :
    let t : Table := { schema := "s", name := "a_b", type := "TABLE" }
    let t' : Table := { schema := "s", name := "axb", type := "TABLE" }
    let s : Snapshot := {
      tables := [t, t']
      columns := [{ schema := "s", table := "a_b", name := "id" },
        { schema := "s", table := "axb", name := "other" }] }
    let r := s.reader .all .none
    let run := (describeRelations (.ofReader r {}) "s.*" false false).run r .table [] {}
    run.1 = .ok () ∧
      (¬∀ row ∈ s.select .columns (partsOf t.schema t.name),
        Kind.columns.belongs t.schema t.name row = true) ∧
      s.select .columns (partsOf t'.schema t'.name) = s.partsIn .columns t'.schema t'.name := by
  intro t t' s r run
  obtain ⟨⟨ends, -, listed⟩, -⟩ := run_own_parts s {} "s.*" false false .table [] {}
  have accepted : ∀ named ∈ [t, t'], (matching "s.*" false).accepts .tables named = true := by
    decide +kernel
  have shown : ∀ named ∈ [t, t'], shows (.ofReader r {}) (k := .tables) false named = true := by
    decide +kernel
  have described (named : Table) (h : named ∈ [t, t']) :
      named ∈ describedTables (.ofReader r {}) s .none (matching "s.*" false) false := by
    refine List.mem_filter.2 ⟨?_, shown named h⟩
    show named ∈ s.select .tables (matching "s.*" false)
    rw [s.select_eq_filter rfl (by decide +kernel)]
    exact List.mem_filter.2 ⟨h, accepted named h⟩
  have mistaken := (listed t (described t (by simp))).2.2 .columns (by decide)
  have exactly := (listed t' (described t' (by simp))).2.2 .columns (by decide)
  refine ⟨ends rfl, ?_, exactly.literal (by decide) (by decide)⟩
  rw [mistaken.only]
  intro all
  have taken := (accepts_partsOf_iff (k := .columns) (by decide)).1
    (show (partsOf t.schema t.name).accepts .columns
      ({ schema := "s", table := "axb", name := "other" } : Column) = true by decide +kernel)
  exact absurd (all _ (by simp [s, Snapshot.rows]) taken) (by decide)

end Describer

end CatalogReport
