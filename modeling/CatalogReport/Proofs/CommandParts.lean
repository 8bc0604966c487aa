import CatalogReport.Command.MetaCommand

/-!
# Parts of commands

A command is composed of queries and documents in a few ways only. A relation that these ways
respect (`Composes`) and that holds between the queries of two describers (`Asks`, `Writes`) holds
between all that the two compose of them; the two differ in what is on offer. There is one lemma for
each part of a command. Statistics, tables and indexes also look at what is on offer, so what is
known of them here asks for more.
-/

namespace CatalogReport

def Describer.offering (d : Describer) (offers : Capabilities) : Describer :=
  { d with offers := offers }

/-! ## Relations between dialogues -/

/-- The ways of composing dialogues respect the relation. -/
structure Composes (R : (α : Type) → Dialogue α → Dialogue α → Prop) : Prop where
  done : ∀ {α : Type} (a : α), R α (.done a) (.done a)
  bind : ∀ {α β : Type} {x y : Dialogue α} {f g : α → Dialogue β},
    R α x y → (∀ a, R β (f a) (g a)) → R β (x >>= f) (y >>= g)
  within : ∀ {α : Type} {x y : Dialogue α},
    R α x y → ∀ context, R α (x.within context) (y.within context)

/-- It holds between queries for rows that only add to a report, in a context: no command makes one
without. -/
structure Asks (d : Describer) (offers : Capabilities)
    (R : (α : Type) → Dialogue α → Dialogue α → Prop) : Prop extends Composes R where
  optional : ∀ k filter context, R _ ((d.optional k filter).within context)
    (((d.offering offers).optional k filter).within context)

/-- It holds between queries for the rows that a command is about, and between documents. -/
structure Writes (d : Describer) (offers : Capabilities)
    (R : (α : Type) → Dialogue α → Dialogue α → Prop) : Prop extends Asks d offers R where
  primary : ∀ command k filter context, R _ (d.primary command k filter context)
    ((d.offering offers).primary command k filter context)
  put : ∀ document, R _ (.put document) (.put document)

section

variable {R : (α : Type) → Dialogue α → Dialogue α → Prop} {α β : Type}

theorem Composes.mapM (h : Composes R) {f g : α → Dialogue β} (hf : ∀ a, R _ (f a) (g a))
    (items : List α) : R _ (items.mapM f) (items.mapM g) := by
  induction items with
  | nil => exact h.done []
  | cons a items ih =>
    rw [List.mapM_cons, List.mapM_cons]
    exact h.bind (hf a) fun b => h.bind ih fun bs => h.done (b :: bs)

theorem Composes.forM (h : Composes R) {f g : α → Dialogue PUnit} (hf : ∀ a, R _ (f a) (g a))
    (items : List α) : R _ (items.forM f) (items.forM g) := by
  induction items with
  | nil => exact h.done PUnit.unit
  | cons a items ih => exact h.bind (hf a) fun _ => ih

end

variable {R : (α : Type) → Dialogue α → Dialogue α → Prop} {d : Describer} {offers : Capabilities}

/-! ## Parts that only ask -/

namespace Asks

theorem withArguments (h : Asks d offers R) (f : Function) :
    R _ (d.withArguments f) ((d.offering offers).withArguments f) := by
  refine h.bind (h.optional _ _ _) fun parameters => ?_
  cases parameters <;> exact h.done _

theorem rowsOfFirst (h : Asks d offers R) (pattern : String) :
    R _ (d.rowsOfFirst pattern) ((d.offering offers).rowsOfFirst pattern) := by
  refine h.bind (h.optional _ _ _) fun tables => ?_
  split <;> exact h.done _

theorem indexColumnNames (h : Asks d offers R) (i : Index) (context : String) :
    R _ ((d.indexColumnNames i).within context)
      (((d.offering offers).indexColumnNames i).within context) := by
  unfold Describer.indexColumnNames
  rw [Dialogue.bind_eq, Dialogue.bind_eq, Dialogue.within_andThen, Dialogue.within_andThen]
  refine h.bind (h.optional _ _ _) fun columns => ?_
  cases columns <;> exact h.done _

theorem indexLines (h : Asks d offers R) (schema table : String) :
    R _ (d.indexLines schema table) ((d.offering offers).indexLines schema table) := by
  refine h.bind (h.optional _ _ _) fun indexes => ?_
  cases indexes with
  | none => exact h.done []
  | some indexes =>
    refine h.mapM (fun i => ?_) indexes
    exact h.bind (h.indexColumnNames i _) fun _ => h.done _

theorem constraintColumns (h : Asks d offers R) (c : Constraint) :
    R _ (d.constraintColumns c) ((d.offering offers).constraintColumns c) := by
  refine h.bind (h.optional _ _ _) fun columns => ?_
  cases columns <;> exact h.done _

theorem constraintLines (h : Asks d offers R) (filter : Filter) (keeps : Constraint → Bool)
    {line line' : Constraint → Dialogue String} (hl : ∀ c, R _ (line c) (line' c)) :
    R _ (d.constraintLines filter keeps line)
      ((d.offering offers).constraintLines filter keeps line') := by
  refine h.bind (h.optional _ _ _) fun constraints => ?_
  cases constraints with
  | none => exact h.done []
  | some constraints => exact h.mapM hl _

theorem triggerLines (h : Asks d offers R) (schema table : String) :
    R _ (d.triggerLines schema table) ((d.offering offers).triggerLines schema table) := by
  refine h.bind (h.optional _ _ _) fun triggers => ?_
  cases triggers <;> exact h.done _

theorem tableSummary (h : Asks d offers R) (schema table : String) :
    R _ (d.tableSummary schema table) ((d.offering offers).tableSummary schema table) := by
  refine h.bind (h.indexLines schema table) fun indexes => ?_
  refine h.bind (h.constraintLines _ _ fun c => h.done _) fun checks => ?_
  refine h.bind (h.constraintLines _ _ fun c => ?_) fun foreignKeys => ?_
  · exact h.bind (h.constraintColumns c) fun _ => h.done _
  refine h.bind (h.constraintLines _ _ fun c => ?_) fun referring => ?_
  · exact h.bind (h.constraintColumns c) fun _ => h.done _
  exact h.bind (h.triggerLines schema table) fun _ => h.done _

end Asks

/-! ## Parts that write -/

namespace Writes

theorem listDatabases (h : Writes d offers R) (pattern : String) (verbose : Bool)
    (config : d.config.listDatabases = none) :
    R _ (d.listDatabases pattern verbose) ((d.offering offers).listDatabases pattern verbose) := by
  have config' : (d.offering offers).config.listDatabases = none := config
  unfold Describer.listDatabases
  rw [config, config']
  exact h.bind (h.primary _ _ _ _) fun _ => h.put _

theorem listSchemas (h : Writes d offers R) (pattern : String) (showSystem : Bool) :
    R _ (d.listSchemas pattern showSystem) ((d.offering offers).listSchemas pattern showSystem) :=
  h.bind (h.primary _ _ _ _) fun _ => h.put _

theorem tableOrNotFound (h : Writes d offers R) (none_left : Bool) (pattern title : String)
    (headers : List String) (rows : List (List Cell)) :
    R _ (if none_left then Describer.notFound pattern else d.table title headers rows)
      (if none_left then Describer.notFound pattern
        else (d.offering offers).table title headers rows) := by
  cases none_left with
  | true => exact h.put _
  | false => exact h.put _

theorem listTables (h : Writes d offers R) (codes pattern : String) (verbose showSystem : Bool) :
    R _ (d.listTables codes pattern verbose showSystem)
      ((d.offering offers).listTables codes pattern verbose showSystem) :=
  h.bind (h.primary _ _ _ _) fun _ => h.tableOrNotFound _ _ _ _ _

theorem listIndexes (h : Writes d offers R) (pattern : String) (verbose showSystem : Bool) :
    R _ (d.listIndexes pattern verbose showSystem)
      ((d.offering offers).listIndexes pattern verbose showSystem) :=
  h.bind (h.primary _ _ _ _) fun _ => h.tableOrNotFound _ _ _ _ _

theorem listPrivileges (h : Writes d offers R) (pattern : String) (showSystem : Bool) :
    R _ (d.listPrivileges pattern showSystem)
      ((d.offering offers).listPrivileges pattern showSystem) :=
  h.bind (h.primary _ _ _ _) fun _ => h.put _

theorem listFunctions (h : Writes d offers R) (codes pattern : String)
    (verbose showSystem : Bool) :
    R _ (d.listFunctions codes pattern verbose showSystem)
      ((d.offering offers).listFunctions codes pattern verbose showSystem) := by
  refine h.bind (h.primary _ _ _ _) fun rows => ?_
  exact h.bind (h.mapM h.withArguments _) fun _ => h.put _

theorem showStats (h : Writes d offers R) (pattern : String) (verbose : Bool) (k : Nat)
    (hr : R _ (d.require "\\ss" .columnStats) ((d.offering offers).require "\\ss" .columnStats)) :
    R _ (d.showStats pattern verbose k) ((d.offering offers).showStats pattern verbose k) := by
  refine h.bind hr fun _ => ?_
  refine h.bind (h.rowsOfFirst pattern) fun rows => ?_
  exact h.bind (h.primary _ _ _ _) fun _ => h.tableOrNotFound _ _ _ _ _

theorem describeTable (h : Writes d offers R) (verbose : Bool) (t : Table) :
    R _ (d.describeTable verbose t) ((d.offering offers).describeTable verbose t) := by
  refine h.bind (h.optional _ _ _) fun columns => ?_
  cases columns with
  | none => exact h.done false
  | some columns =>
    refine h.bind (h.put _) fun _ => ?_
    refine h.bind (h.tableSummary t.schema t.name) fun summary => ?_
    dsimp only
    split
    · exact h.done true
    · exact h.bind (h.put _) fun _ => h.done true

theorem describeListedTables (h : Writes d offers R) (filter : Filter) (verbose showSystem : Bool)
    (offered : d.offers.has .tables && d.offers.has .columns)
    (offered' : (d.offering offers).offers.has .tables && (d.offering offers).offers.has .columns) :
    R _ (d.describeTables filter verbose showSystem)
      ((d.offering offers).describeTables filter verbose showSystem) := by
  unfold Describer.describeTables
  rw [if_pos offered, if_pos offered']
  refine h.bind (h.optional _ _ _) fun tables => ?_
  cases tables with
  | none => exact h.done false
  | some tables =>
    refine h.bind (h.mapM (fun t => ?_) _) fun _ => h.done _
    exact h.within (h.describeTable verbose t) _

theorem describeSequences (h : Writes d offers R) (filter : Filter) (showSystem : Bool)
    (context : String) :
    R _ ((d.describeSequences filter showSystem).within context)
      (((d.offering offers).describeSequences filter showSystem).within context) := by
  unfold Describer.describeSequences
  rw [Dialogue.bind_eq, Dialogue.bind_eq, Dialogue.within_andThen, Dialogue.within_andThen]
  refine h.bind (h.optional _ _ _) fun sequences => ?_
  cases sequences with
  | none => exact h.done false
  | some sequences => exact h.within (h.bind (h.forM (fun _ => h.put _) _) fun _ => h.done _) _

theorem describeIndex (h : Writes d offers R) (i : Index) :
    R _ (d.describeIndex i) ((d.offering offers).describeIndex i) := by
  refine h.bind (h.optional _ _ _) fun columns => ?_
  cases columns with
  | none => exact h.done ()
  | some columns =>
    dsimp only
    split
    · exact h.done _
    · exact h.bind (h.put _) fun _ => h.put _

theorem describeListedIndexes (h : Writes d offers R) (filter : Filter) (name : String)
    (showSystem : Bool) (offered : d.offers.has .indexes && d.offers.has .indexColumns)
    (offered' : (d.offering offers).offers.has .indexes &&
      (d.offering offers).offers.has .indexColumns) :
    R _ (d.describeIndexes filter name showSystem)
      ((d.offering offers).describeIndexes filter name showSystem) := by
  unfold Describer.describeIndexes
  rw [if_pos offered, if_pos offered']
  refine h.bind (h.optional _ _ _) fun indexes => ?_
  cases indexes with
  | none => exact h.done false
  | some indexes =>
    refine h.bind (h.forM (fun i => ?_) _) fun _ => h.done _
    exact h.within (h.describeIndex i) _

theorem describeRelations (h : Writes d offers R) (pattern : String) (verbose showSystem : Bool)
    (tables : ∀ filter, R _ (d.describeTables filter verbose showSystem)
      ((d.offering offers).describeTables filter verbose showSystem))
    (indexes : ∀ filter name, R _ (d.describeIndexes filter name showSystem)
      ((d.offering offers).describeIndexes filter name showSystem)) :
    R _ (d.describeRelations pattern verbose showSystem)
      ((d.offering offers).describeRelations pattern verbose showSystem) := by
  refine h.bind (tables _) fun tables => ?_
  refine h.bind (h.describeSequences _ showSystem _) fun sequences => ?_
  refine h.bind (indexes _ _) fun indexes => ?_
  split
  · exact h.done _
  · exact h.put _

end Writes

/-! ## Commands -/

/-- Whether the command leaves the list of databases to the configuration. -/
def MetaCommand.Overridden (c : MetaCommand) (config : Config) : Prop :=
  ∃ pattern verbose, c = .listDatabases pattern verbose ∧ config.listDatabases ≠ none

/-- A relation holds between the runs of a command once it holds between the parts that look at what
is on offer. -/
theorem Writes.dialogue (h : Writes d offers R) (c : MetaCommand)
    (overridden : ¬c.Overridden d.config)
    (stats : ∀ pattern verbose k, R _ (d.showStats pattern verbose k)
      ((d.offering offers).showStats pattern verbose k))
    (tables : ∀ filter verbose showSystem, R _ (d.describeTables filter verbose showSystem)
      ((d.offering offers).describeTables filter verbose showSystem))
    (indexes : ∀ filter name showSystem, R _ (d.describeIndexes filter name showSystem)
      ((d.offering offers).describeIndexes filter name showSystem)) :
    R _ (c.dialogue d) (c.dialogue (d.offering offers)) := by
  cases c with
  | listDatabases pattern verbose =>
    refine h.listDatabases pattern verbose (Option.eq_none_iff_forall_ne_some.2 fun list e => ?_)
    exact overridden ⟨pattern, verbose, rfl, by simp [e]⟩
  | listSchemas pattern _ showSystem => exact h.listSchemas pattern showSystem
  | describeRelations pattern verbose showSystem =>
    exact h.describeRelations pattern verbose showSystem (fun filter => tables filter _ _)
      fun filter name => indexes filter name _
  | listTables codes pattern verbose showSystem =>
    exact h.listTables codes pattern verbose showSystem
  | listIndexes pattern verbose showSystem => exact h.listIndexes pattern verbose showSystem
  | listFunctions codes pattern verbose showSystem =>
    exact h.listFunctions codes pattern verbose showSystem
  | showStats pattern verbose k => exact stats pattern verbose k
  | listPrivileges pattern showSystem => exact h.listPrivileges pattern showSystem

/-! ## One describer

Between a describer and itself it does not matter what is on offer.
-/

namespace Writes

theorem describeTables (h : Writes d d.offers R) (filter : Filter) (verbose showSystem : Bool) :
    R _ (d.describeTables filter verbose showSystem)
      (d.describeTables filter verbose showSystem) := by
  by_cases offered : d.offers.has .tables && d.offers.has .columns
  · exact h.describeListedTables filter verbose showSystem offered offered
  · unfold Describer.describeTables
    rw [if_neg offered]
    exact h.done false

theorem describeIndexes (h : Writes d d.offers R) (filter : Filter) (name : String)
    (showSystem : Bool) :
    R _ (d.describeIndexes filter name showSystem)
      (d.describeIndexes filter name showSystem) := by
  by_cases offered : d.offers.has .indexes && d.offers.has .indexColumns
  · exact h.describeListedIndexes filter name showSystem offered offered
  · unfold Describer.describeIndexes
    rw [if_neg offered]
    exact h.done false

theorem dialogue_self (h : Writes d d.offers R) (c : MetaCommand)
    (overridden : ¬c.Overridden d.config)
    (required : R _ (d.require "\\ss" .columnStats) (d.require "\\ss" .columnStats)) :
    R _ (c.dialogue d) (c.dialogue d) :=
  h.dialogue c overridden (fun pattern verbose k => h.showStats pattern verbose k required)
    h.describeTables h.describeIndexes

end Writes

end CatalogReport
