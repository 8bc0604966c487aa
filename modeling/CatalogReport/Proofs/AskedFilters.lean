import CatalogReport.Proofs.CommandParts

/-!
# The filters that commands ask with

A command asks for the objects that its pattern names (`Filter.NamesObjects`) and for what belongs
to one of them (`Filter.NamesParts`), whatever it is answered (`asksOnly_dialogue`). For each kind
of rows these filters leave most attributes empty; what stands in the others is arbitrary text.
-/

namespace CatalogReport

/-! ## Filters -/

namespace Filter

/-- The filters for the objects that a pattern names. -/
inductive NamesObjects : Kind → Filter → Prop where
  | catalogs (name : String) : NamesObjects .catalogs { name := name }
  | schemas (name : String) (showSystem : Bool) :
    NamesObjects .schemas { name := name, withSystem := showSystem }
  | tables (schema name : String) (types : NameSet) (showSystem : Bool) :
    NamesObjects .tables
      { schema := schema, name := name, types := types, withSystem := showSystem }
  | indexes (schema name : String) (showSystem : Bool) :
    NamesObjects .indexes { schema := schema, name := name, withSystem := showSystem }
  | sequences (schema name : String) (showSystem : Bool) :
    NamesObjects .sequences { schema := schema, name := name, withSystem := showSystem }
  | functions (schema name : String) (types : NameSet) (showSystem : Bool) :
    NamesObjects .functions
      { schema := schema, name := name, types := types, withSystem := showSystem }
  | columnStats (schema table : String) (types : NameSet) :
    NamesObjects .columnStats
      { schema := schema, parent := table, types := types, withSystem := true }
  | privilegeSummaries (schema name : String) (types : NameSet) (showSystem : Bool) :
    NamesObjects .privilegeSummaries
      { schema := schema, name := name, types := types, withSystem := showSystem }

/-- The filters for what belongs to a table, an index, a constraint or a function. -/
inductive NamesParts : Kind → Filter → Prop where
  | columns (schema table : String) :
    NamesParts .columns { schema := schema, parent := table, withSystem := true }
  | indexes (schema table : String) :
    NamesParts .indexes { schema := schema, parent := table, withSystem := true }
  | indexColumns (catalog schema table name : String) :
    NamesParts .indexColumns
      { catalog := catalog, schema := schema, parent := table, name := name, withSystem := true }
  | constraints (schema table : String) :
    NamesParts .constraints { schema := schema, parent := table, withSystem := true }
  | referring (schema table : String) :
    NamesParts .constraints { schema := schema, reference := table, withSystem := true }
  | constraintColumns (catalog schema table name : String) :
    NamesParts .constraintColumns
      { catalog := catalog, schema := schema, parent := table, name := name, withSystem := true }
  | triggers (schema table : String) :
    NamesParts .triggers { schema := schema, parent := table, withSystem := true }
  | functionColumns (catalog schema function : String) :
    NamesParts .functionColumns
      { catalog := catalog, schema := schema, parent := function, withSystem := true }

/-- The filters that a command can ask for rows of a kind with. -/
def Asked (k : Kind) (f : Filter) : Prop :=
  NamesObjects k f ∨ NamesParts k f

end Filter

/-! ## Dialogues -/

namespace Dialogue

variable {α β : Type} {P Q : Kind → Filter → Prop}

/-- Whatever it is answered, the dialogue asks only what satisfies `P`. -/
def AsksOnly (P : Kind → Filter → Prop) : Dialogue α → Prop
  | .done _ => True
  | .fail _ => True
  | .ask k filter next => P k filter ∧ ∀ answer, (next answer).AsksOnly P
  | .hand _ next => ∀ reply, (next reply).AsksOnly P

theorem asksOnly_done (value : α) : (done value).AsksOnly P :=
  trivial

theorem asksOnly_put (document : Document) : (put document).AsksOnly P := by
  intro reply
  cases reply <;> exact trivial

theorem AsksOnly.bind {d : Dialogue α} {f : α → Dialogue β} (h : d.AsksOnly P)
    (hf : ∀ value, (f value).AsksOnly P) : (d >>= f).AsksOnly P := by
  rw [bind_eq]
  induction d with
  | done value => exact hf value
  | fail failure => exact trivial
  | ask k filter next ih => exact ⟨h.1, fun answer => ih answer (h.2 answer)⟩
  | hand document next ih => exact fun reply => ih reply (h reply)

theorem AsksOnly.within {d : Dialogue α} (h : d.AsksOnly P) (context : String) :
    (d.within context).AsksOnly P := by
  induction d with
  | done value => exact trivial
  | fail failure => exact trivial
  | ask k filter next ih => exact ⟨h.1, fun answer => ih answer (h.2 answer)⟩
  | hand document next ih => exact fun reply => ih reply (h reply)

theorem AsksOnly.mono {d : Dialogue α} (h : d.AsksOnly P) (weaker : ∀ k f, P k f → Q k f) :
    d.AsksOnly Q := by
  induction d with
  | done value => exact trivial
  | fail failure => exact trivial
  | ask k filter next ih => exact ⟨weaker k filter h.1, fun answer => ih answer (h.2 answer)⟩
  | hand document next ih => exact fun reply => ih reply (h reply)

theorem composes_asksOnly (P : Kind → Filter → Prop) : Composes fun _ x _ => x.AsksOnly P where
  done := asksOnly_done
  bind := AsksOnly.bind
  within := AsksOnly.within

theorem asksOnly_mapM {f : α → Dialogue β} (hf : ∀ a, (f a).AsksOnly P) (items : List α) :
    (items.mapM f).AsksOnly P :=
  (composes_asksOnly P).mapM (g := f) hf items

theorem asksOnly_forM {f : α → Dialogue PUnit} (hf : ∀ a, (f a).AsksOnly P) (items : List α) :
    (items.forM f).AsksOnly P :=
  (composes_asksOnly P).forM (g := f) hf items

end Dialogue

/-! ## Parts of commands -/

open Dialogue (AsksOnly asksOnly_done asksOnly_put asksOnly_mapM asksOnly_forM)
open CatalogReport.Filter (NamesObjects NamesParts Asked)

namespace Describer

variable (d : Describer)

section

variable {P : Kind → Filter → Prop} {k : Kind} {filter : Filter}

theorem asksOnly_require (command : String) (k : Kind) : (d.require command k).AsksOnly P := by
  unfold require
  split <;> exact trivial

theorem asksOnly_primary (h : P k filter) (command context : String) :
    (d.primary command k filter context).AsksOnly P := by
  refine (d.asksOnly_require command k).bind fun _ => ⟨h, fun answer => ?_⟩
  cases answer with
  | ok rows => exact trivial
  | error failure =>
    show AsksOnly P (if failure.isNotSupported then _ else _)
    split <;> exact trivial

theorem asksOnly_optional (h : P k filter) : (d.optional k filter).AsksOnly P := by
  unfold optional
  split
  · refine ⟨h, fun answer => ?_⟩
    cases answer with
    | ok rows => exact trivial
    | error failure =>
      show AsksOnly P (if failure.isNotSupported then _ else _)
      split <;> exact trivial
  · exact trivial

theorem asksOnly_tableOrNotFound (none_left : Bool) (pattern title : String)
    (headers : List String) (rows : List (List Cell)) :
    (if none_left then notFound pattern else d.table title headers rows).AsksOnly P := by
  cases none_left <;> exact asksOnly_put _

end

theorem asksOnly_withArguments (f : Function) : (d.withArguments f).AsksOnly NamesParts := by
  refine ((d.asksOnly_optional (.functionColumns _ _ _)).within _).bind fun parameters => ?_
  cases parameters <;> exact asksOnly_done _

theorem asksOnly_indexColumnNames (i : Index) : (d.indexColumnNames i).AsksOnly NamesParts := by
  refine (d.asksOnly_optional (.indexColumns _ _ _ _)).bind fun columns => ?_
  cases columns <;> exact asksOnly_done _

theorem asksOnly_indexLines (schema table : String) :
    (d.indexLines schema table).AsksOnly NamesParts := by
  refine ((d.asksOnly_optional (.indexes _ _)).within _).bind fun indexes => ?_
  cases indexes with
  | none => exact asksOnly_done _
  | some indexes =>
    refine asksOnly_mapM (fun i => ?_) indexes
    exact ((d.asksOnly_indexColumnNames i).within _).bind fun _ => asksOnly_done _

theorem asksOnly_constraintColumns (c : Constraint) :
    (d.constraintColumns c).AsksOnly NamesParts := by
  refine ((d.asksOnly_optional (.constraintColumns _ _ _ _)).within _).bind fun columns => ?_
  cases columns <;> exact asksOnly_done _

theorem asksOnly_constraintLines {filter : Filter} (h : NamesParts .constraints filter)
    (keeps : Constraint → Bool) {line : Constraint → Dialogue String}
    (hl : ∀ c, (line c).AsksOnly NamesParts) :
    (d.constraintLines filter keeps line).AsksOnly NamesParts := by
  refine ((d.asksOnly_optional h).within _).bind fun constraints => ?_
  cases constraints with
  | none => exact asksOnly_done _
  | some constraints => exact asksOnly_mapM hl _

theorem asksOnly_triggerLines (schema table : String) :
    (d.triggerLines schema table).AsksOnly NamesParts := by
  refine ((d.asksOnly_optional (.triggers _ _)).within _).bind fun triggers => ?_
  cases triggers <;> exact asksOnly_done _

theorem asksOnly_tableSummary (schema table : String) :
    (d.tableSummary schema table).AsksOnly NamesParts := by
  refine (d.asksOnly_indexLines schema table).bind fun indexes => ?_
  refine (d.asksOnly_constraintLines (.constraints _ _) _ fun c =>
    asksOnly_done _).bind fun checks => ?_
  refine (d.asksOnly_constraintLines (.constraints _ _) _ fun c => ?_).bind fun foreignKeys => ?_
  · exact (d.asksOnly_constraintColumns c).bind fun _ => asksOnly_done _
  refine (d.asksOnly_constraintLines (.referring _ _) _ fun c => ?_).bind fun referring => ?_
  · exact (d.asksOnly_constraintColumns c).bind fun _ => asksOnly_done _
  exact (d.asksOnly_triggerLines schema table).bind fun _ => asksOnly_done _

theorem asksOnly_describeTable (verbose : Bool) (t : Table) :
    (d.describeTable verbose t).AsksOnly NamesParts := by
  refine ((d.asksOnly_optional (.columns _ _)).within _).bind fun columns => ?_
  cases columns with
  | none => exact asksOnly_done _
  | some columns =>
    refine (asksOnly_put _).bind fun _ => ?_
    refine (d.asksOnly_tableSummary t.schema t.name).bind fun summary => ?_
    dsimp only
    split
    · exact asksOnly_done _
    · exact (asksOnly_put _).bind fun _ => asksOnly_done _

theorem asksOnly_describeIndex (i : Index) : (d.describeIndex i).AsksOnly NamesParts := by
  refine ((d.asksOnly_optional (.indexColumns _ _ _ _)).within _).bind fun columns => ?_
  cases columns with
  | none => exact asksOnly_done _
  | some columns =>
    dsimp only
    split
    · exact asksOnly_done _
    · exact (asksOnly_put _).bind fun _ => asksOnly_put _

/-! ## Commands -/

section

variable {P : Kind → Filter → Prop} {filter : Filter}

theorem asksOnly_describeTables (h : P .tables filter)
    (parts : ∀ k f, NamesParts k f → P k f) (verbose showSystem : Bool) :
    (d.describeTables filter verbose showSystem).AsksOnly P := by
  unfold describeTables
  split
  · refine ((d.asksOnly_optional h).within _).bind fun tables => ?_
    cases tables with
    | none => exact asksOnly_done _
    | some tables =>
      refine (asksOnly_mapM (fun t => ?_) _).bind fun _ => asksOnly_done _
      exact ((d.asksOnly_describeTable verbose t).mono parts).within _
  · exact asksOnly_done _

theorem asksOnly_describeSequences (h : P .sequences filter) (showSystem : Bool) :
    (d.describeSequences filter showSystem).AsksOnly P := by
  refine (d.asksOnly_optional h).bind fun sequences => ?_
  cases sequences with
  | none => exact asksOnly_done _
  | some sequences =>
    exact (asksOnly_forM (fun _ => asksOnly_put _) _).bind fun _ => asksOnly_done _

theorem asksOnly_describeIndexes (h : P .indexes filter)
    (parts : ∀ k f, NamesParts k f → P k f) (name : String) (showSystem : Bool) :
    (d.describeIndexes filter name showSystem).AsksOnly P := by
  unfold describeIndexes
  split
  · refine ((d.asksOnly_optional h).within _).bind fun indexes => ?_
    cases indexes with
    | none => exact asksOnly_done _
    | some indexes =>
      refine (asksOnly_forM (fun i => ?_) _).bind fun _ => asksOnly_done _
      exact ((d.asksOnly_describeIndex i).mono parts).within _
  · exact asksOnly_done _

end

theorem asksOnly_describeRelations (pattern : String) (verbose showSystem : Bool) :
    (d.describeRelations pattern verbose showSystem).AsksOnly Asked := by
  refine (d.asksOnly_describeTables (.inl (.tables _ _ _ _)) (fun _ _ => .inr) _ _).bind
    fun tables => ?_
  refine ((d.asksOnly_describeSequences (.inl (.sequences _ _ _)) _).within _).bind
    fun sequences => ?_
  refine (d.asksOnly_describeIndexes (.inl (.indexes _ _ _)) (fun _ _ => .inr) _ _).bind
    fun indexes => ?_
  split
  · exact asksOnly_done _
  · exact asksOnly_put _

theorem asksOnly_listDatabases (pattern : String) (verbose : Bool)
    (config : d.config.listDatabases = none) :
    (d.listDatabases pattern verbose).AsksOnly Asked := by
  unfold listDatabases
  rw [config]
  exact (d.asksOnly_primary (.inl (.catalogs _)) _ _).bind fun _ => asksOnly_put _

theorem asksOnly_listFunctions (codes pattern : String) (verbose showSystem : Bool) :
    (d.listFunctions codes pattern verbose showSystem).AsksOnly Asked := by
  refine (d.asksOnly_primary (.inl (.functions _ _ _ _)) _ _).bind fun rows => ?_
  refine (asksOnly_mapM (fun f => ?_) _).bind fun _ => asksOnly_put _
  exact (d.asksOnly_withArguments f).mono fun _ _ => .inr

theorem asksOnly_showStats (pattern : String) (verbose : Bool) (k : Nat) :
    (d.showStats pattern verbose k).AsksOnly Asked := by
  refine (d.asksOnly_require _ _).bind fun _ => ?_
  refine AsksOnly.bind ?_ fun rows => ?_
  · refine ((d.asksOnly_optional (.inl (.tables _ _ .empty true))).within _).bind fun tables => ?_
    split <;> exact asksOnly_done _
  · refine (d.asksOnly_primary (.inl (.columnStats _ _ _)) _ _).bind fun stats => ?_
    exact d.asksOnly_tableOrNotFound _ _ _ _ _

end Describer

theorem MetaCommand.asksOnly_dialogue (c : MetaCommand) (d : Describer)
    (h : ¬c.Overridden d.config) : (c.dialogue d).AsksOnly Asked := by
  cases c with
  | listDatabases pattern verbose =>
    refine d.asksOnly_listDatabases pattern verbose
      (Option.eq_none_iff_forall_ne_some.2 fun list e => ?_)
    exact h ⟨pattern, verbose, rfl, by simp [e]⟩
  | listSchemas pattern _ showSystem =>
    exact (d.asksOnly_primary (.inl (.schemas _ _)) _ _).bind fun _ => asksOnly_put _
  | describeRelations pattern verbose showSystem =>
    exact d.asksOnly_describeRelations pattern verbose showSystem
  | listTables codes pattern verbose showSystem =>
    exact (d.asksOnly_primary (.inl (.tables _ _ _ _)) _ _).bind fun _ =>
      d.asksOnly_tableOrNotFound _ _ _ _ _
  | listIndexes pattern verbose showSystem =>
    exact (d.asksOnly_primary (.inl (.indexes _ _ _)) _ _).bind fun _ =>
      d.asksOnly_tableOrNotFound _ _ _ _ _
  | listFunctions codes pattern verbose showSystem =>
    exact d.asksOnly_listFunctions codes pattern verbose showSystem
  | showStats pattern verbose k => exact d.asksOnly_showStats pattern verbose k
  | listPrivileges pattern showSystem =>
    exact (d.asksOnly_primary (.inl (.privilegeSummaries _ _ _ _)) _ _).bind fun _ => asksOnly_put _

end CatalogReport
