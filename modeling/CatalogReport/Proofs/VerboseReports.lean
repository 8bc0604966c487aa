import Mathlib.Data.List.Forall2
import CatalogReport.Proofs.FailedQueries
import CatalogReport.Proofs.TableSections

/-!
# Verbose reports

Five commands show more when they are verbose. A verbose dialogue is the plain one with wider tables
(`Dialogue.Widens`): node by node it asks the same, but maybe for more groups of statistics, goes on
in the same way after the same answer and hands out the same document, but maybe with more columns
after those of the plain one, cells and headers alike. With a reader that does not look at these
groups the two run alike (`Widens.run`).
-/

namespace CatalogReport

/-! ## Wider documents and filters -/

/-- The headers and the rows of the grid may go on, each row by as many cells as there are more
headers. -/
structure Grid.Widens (grid wide : Grid) : Prop where
  headers : grid.headers <+: wide.headers
  rows : List.Forall₂ (fun row longer => row <+: longer ∧
    longer.length + grid.headers.length = row.length + wide.headers.length) grid.rows wide.rows

/-- The same document, but a table may be wider. -/
inductive Document.Widens : Document → Document → Prop where
  | table {grid wide : Grid} (options : Options) (h : grid.Widens wide) :
      Widens (.table grid options) (.table wide options)
  | lines (texts : List String) : Widens (.lines texts) (.lines texts)
  | verbatim (text : String) : Widens (.verbatim text) (.verbatim text)

theorem Grid.Widens.refl (grid : Grid) : grid.Widens grid :=
  ⟨List.prefix_rfl, List.forall₂_same.2 fun _ _ => ⟨List.prefix_rfl, rfl⟩⟩

theorem Document.Widens.refl (document : Document) : document.Widens document := by
  cases document with
  | table grid options => exact .table options (.refl grid)
  | lines texts => exact .lines texts
  | verbatim text => exact .verbatim text

/-- The same filter, but statistics may be asked for in more groups. -/
structure Filter.Widens (k : Kind) (f wide : Filter) : Prop where
  attributes : wide = { f with types := wide.types }
  types : k ≠ .columnStats → wide.types = f.types
  groups : ∀ group ∈ f.types.names, group ∈ wide.types.names

theorem Filter.Widens.refl (k : Kind) (f : Filter) : f.Widens k f :=
  ⟨rfl, fun _ => rfl, fun _ asked => asked⟩

theorem Snapshot.select_eq_of_widens (s : Snapshot) {k : Kind} {f wide : Filter}
    (h : f.Widens k wide) : s.select k wide = s.select k f := by
  by_cases stats : k = .columnStats
  · -- Statistics have no type, so no row is compared with the groups.
    subst stats
    rw [h.attributes]
    rfl
  · rw [h.attributes, h.types stats]

inductive Exchange.Widens : Exchange → Exchange → Prop where
  | mk {k : Kind} {f wide : Filter} (answer : Except Failure (List k.Row)) (h : f.Widens k wide) :
      Widens ⟨k, f, answer⟩ ⟨k, wide, answer⟩

/-- The reader answers a wider query as it answers the plain one. -/
def Reader.Overlooks {σ : Type} (r : Reader σ) : Prop :=
  ∀ k f wide state, Filter.Widens k f wide → r.ask k wide state = r.ask k f state

theorem Snapshot.overlooks_reader (s : Snapshot) (offers declined : Capabilities) :
    (s.reader offers declined).Overlooks := by
  intro k f wide tally h
  show (s.answer declined k wide, k :: tally) = (s.answer declined k f, k :: tally)
  rw [answer, answer, s.select_eq_of_widens h]

/-! ## Wider dialogues -/

namespace Dialogue

variable {α β σ : Type}

/-- Node by node the second dialogue is the first one with wider queries and documents. -/
inductive Widens : Dialogue α → Dialogue α → Prop where
  | done (value : α) : Widens (.done value) (.done value)
  | fail (failure : Failure) : Widens (.fail failure) (.fail failure)
  | ask {k : Kind} {f wide : Filter} {next next' : Except Failure (List k.Row) → Dialogue α}
      (h : f.Widens k wide) (rest : ∀ answer, Widens (next answer) (next' answer)) :
      Widens (.ask k f next) (.ask k wide next')
  | hand {document wide : Document} {next next' : Except Failure Unit → Dialogue α}
      (h : document.Widens wide) (rest : ∀ reply, Widens (next reply) (next' reply)) :
      Widens (.hand document next) (.hand wide next')

theorem Widens.refl (d : Dialogue α) : d.Widens d := by
  induction d with
  | done value => exact .done value
  | fail failure => exact .fail failure
  | ask k filter next ih => exact .ask (.refl k filter) ih
  | hand document next ih => exact .hand (.refl document) ih

theorem Widens.bind {x y : Dialogue α} {f g : α → Dialogue β} (h : x.Widens y)
    (hf : ∀ value, (f value).Widens (g value)) : (x >>= f).Widens (y >>= g) := by
  simp only [bind_eq]
  induction h with
  | done value => exact hf value
  | fail failure => exact .fail failure
  | ask wider _ ih => exact .ask wider ih
  | hand wider _ ih => exact .hand wider ih

theorem Widens.within {x y : Dialogue α} (h : x.Widens y) (context : String) :
    (x.within context).Widens (y.within context) := by
  induction h with
  | done value => exact .done value
  | fail failure => exact .fail (failure.within context)
  | ask wider _ ih => exact .ask wider ih
  | hand wider _ ih => exact .hand wider ih

theorem composes_widens : Composes fun _ x y => x.Widens y where
  done := .done
  bind := .bind
  within := .within

theorem widens_put {document wide : Document} (h : document.Widens wide) :
    (put document).Widens (put wide) :=
  .hand h fun _ => .refl _

/-! ## Runs -/

def handed (r : Reader σ) (encoder : Encoder) : Dialogue α → σ → Sink → List Document
  | .done _, _, _ => []
  | .fail _, _, _ => []
  | .ask k filter next, state, sink =>
    let (answer, state) := r.ask k filter state
    (next answer).handed r encoder state sink
  | .hand document next, state, sink =>
    document ::
      match sink.put (encoder.encode document) with
      | .ok sink => (next (.ok ())).handed r encoder state sink
      | .error failure => (next (.error failure)).handed r encoder state sink

theorem exists_put {sink : Sink} (unlimited : sink.limit = none) (text : String) :
    ∃ later, sink.put text = .ok later ∧ later.text = sink.text ++ text ∧ later.limit = none := by
  refine ⟨{ sink with text := sink.text ++ text }, ?_, rfl, unlimited⟩
  unfold Sink.put
  rw [unlimited]

theorem run_text_handed (r : Reader σ) (encoder : Encoder) (d : Dialogue α) (state : σ)
    {sink : Sink} (unlimited : sink.limit = none) :
    (d.run r encoder state sink).2.2.text =
      sink.text ++ encoder.encodeAll (d.handed r encoder state sink) := by
  induction d generalizing state sink with
  | done value => simp [run, handed, Encoder.encodeAll]
  | fail failure => simp [run, handed, Encoder.encodeAll]
  | ask k filter next ih => exact ih _ _ unlimited
  | hand document next ih =>
    obtain ⟨later, taken, text, openEnd⟩ := exists_put unlimited (encoder.encode document)
    simp only [run, handed, taken]
    rw [ih (.ok ()) state openEnd, text]
    simp [Encoder.encodeAll, String.append_assoc]

theorem Tells.handed_eq {answers : Answers} {d : Dialogue α} {value : α} {documents : List Document}
    (h : d.Tells answers value documents) {r : Reader σ} (steady : r.Steady answers)
    (encoder : Encoder) (state : σ) {sink : Sink} (unlimited : sink.limit = none) :
    d.handed r encoder state sink = documents := by
  induction h generalizing state sink with
  | done value => rfl
  | @ask k filter next _ _ _ ih =>
    have answer := steady k filter state
    simp only [handed, answer]
    exact ih _ unlimited
  | @hand document _ _ _ _ ih =>
    obtain ⟨later, taken, -, openEnd⟩ := exists_put unlimited (encoder.encode document)
    simp only [handed, taken]
    rw [ih state openEnd]

/-- The two end alike, leave the reader in the same state, and ask and hand out the same but
wider. -/
theorem Widens.run {x y : Dialogue α} (h : x.Widens y) {r : Reader σ} (overlooks : r.Overlooks)
    (encoder : Encoder) (state : σ) {sink sink' : Sink} (unlimited : sink.limit = none)
    (unlimited' : sink'.limit = none) :
    (y.run r encoder state sink').1 = (x.run r encoder state sink).1 ∧
      (y.run r encoder state sink').2.1 = (x.run r encoder state sink).2.1 ∧
      List.Forall₂ Exchange.Widens (x.exchanges r encoder state sink)
        (y.exchanges r encoder state sink') ∧
      List.Forall₂ Document.Widens (x.handed r encoder state sink)
        (y.handed r encoder state sink') := by
  -- What is written so far differs, so the sinks do, too; all that matters is that neither refuses.
  induction h generalizing state sink sink' with
  | done value => exact ⟨rfl, rfl, .nil, .nil⟩
  | fail failure => exact ⟨rfl, rfl, .nil, .nil⟩
  | @ask k f wide next next' wider _ ih =>
    have answer := overlooks k f wide state wider
    obtain ⟨outcome, asked, exchanges, documents⟩ :=
      ih (r.ask k f state).1 (r.ask k f state).2 unlimited unlimited'
    simp only [Dialogue.run, exchanges_ask, handed, answer]
    exact ⟨outcome, asked, .cons (.mk _ wider) exchanges, documents⟩
  | @hand document wide next next' wider _ ih =>
    obtain ⟨later, taken, -, openEnd⟩ := exists_put unlimited (encoder.encode document)
    obtain ⟨later', taken', -, openEnd'⟩ := exists_put unlimited' (encoder.encode wide)
    simp only [Dialogue.run, Dialogue.exchanges, handed, taken, taken']
    obtain ⟨outcome, asked, exchanges, documents⟩ := ih (.ok ()) state openEnd openEnd'
    exact ⟨outcome, asked, exchanges, .cons wider documents⟩

end Dialogue

namespace Describer

open Dialogue (Widens widens_put composes_widens)

variable (d : Describer)

/-! ## Longer rows -/

/-- Headers and cells that go on alike when they are verbose. -/
structure Lengthens {α : Type} (names : Bool → List String) (cells : Bool → α → List Cell) :
    Prop where
  headers : names false <+: names true
  rows : ∀ row, cells false row <+: cells true row
  even : ∀ row, (cells true row).length + (names false).length =
    (cells false row).length + (names true).length

theorem inDetail_longer {α : Type} (always more : List α) :
    inDetail false always more <+: inDetail true always more :=
  List.prefix_append always more

theorem lengthens_tables : Lengthens tableHeaders tableCells :=
  ⟨inDetail_longer _ _, fun _ => inDetail_longer _ _, fun _ => rfl⟩

theorem lengthens_indexes : Lengthens indexHeaders indexCells :=
  ⟨inDetail_longer _ _, fun _ => inDetail_longer _ _, fun _ => rfl⟩

theorem lengthens_functions : Lengthens functionHeaders functionCells :=
  ⟨inDetail_longer _ _, fun _ => inDetail_longer _ _, fun _ => rfl⟩

theorem lengthens_stats (k : Nat) (rows : Int64) :
    Lengthens statHeaders fun verbose => statCells verbose k rows :=
  ⟨inDetail_longer _ _, fun _ => inDetail_longer _ _, fun _ => rfl⟩

theorem lengthens_columns : Lengthens columnHeaders columnCells :=
  ⟨inDetail_longer _ _, fun _ => inDetail_longer _ _, fun _ => rfl⟩

namespace Lengthens

variable {α : Type} {names : Bool → List String} {cells : Bool → α → List Cell}

theorem widens_table (h : Lengthens names cells) (title : String) (rows : List α) :
    (d.table title (names false) (rows.map (cells false))).Widens
      (d.table title (names true) (rows.map (cells true))) := by
  refine widens_put (.table _ ⟨h.headers, ?_⟩)
  rw [List.forall₂_map_left_iff, List.forall₂_map_right_iff, List.forall₂_same]
  exact fun row _ => ⟨h.rows row, h.even row⟩

theorem widens_found (h : Lengthens names cells) (pattern title : String) (rows : List α) :
    (if rows.isEmpty then notFound pattern
      else d.table title (names false) (rows.map (cells false))).Widens
      (if rows.isEmpty then notFound pattern
        else d.table title (names true) (rows.map (cells true))) := by
  split
  · exact .refl _
  · exact h.widens_table d title rows

end Lengthens

/-! ## Commands -/

theorem widens_listTables (codes pattern : String) (showSystem : Bool) :
    (d.listTables codes pattern false showSystem).Widens
      (d.listTables codes pattern true showSystem) :=
  (Widens.refl _).bind fun _ => lengthens_tables.widens_found d pattern _ _

theorem widens_listIndexes (pattern : String) (showSystem : Bool) :
    (d.listIndexes pattern false showSystem).Widens (d.listIndexes pattern true showSystem) :=
  (Widens.refl _).bind fun _ => lengthens_indexes.widens_found d pattern _ _

theorem widens_listFunctions (codes pattern : String) (showSystem : Bool) :
    (d.listFunctions codes pattern false showSystem).Widens
      (d.listFunctions codes pattern true showSystem) := by
  refine (Widens.refl _).bind fun rows => ?_
  refine (Widens.refl _).bind fun functions => ?_
  exact lengthens_functions.widens_table d _ functions

theorem widens_statsOf (pattern : String) :
    (statsOf pattern false).Widens .columnStats (statsOf pattern true) where
  attributes := rfl
  types other := absurd rfl other
  groups group asked := by
    have basic : group ∈ ["basic"] := NameSet.mem_ofList.1 asked
    exact NameSet.mem_ofList.2 (List.mem_append_left ["extended"] basic)

theorem widens_primary (command : String) {k : Kind} {f wide : Filter} (h : f.Widens k wide)
    (context : String) :
    (d.primary command k f context).Widens (d.primary command k wide context) := by
  refine (Widens.refl _).bind fun _ => ?_
  exact Widens.bind (.ask h fun _ => .refl _) fun _ => .refl _

theorem widens_showStats (pattern : String) (k : Nat) :
    (d.showStats pattern false k).Widens (d.showStats pattern true k) := by
  refine (Widens.refl _).bind fun _ => ?_
  refine (Widens.refl _).bind fun rows => ?_
  refine (d.widens_primary _ (widens_statsOf pattern) _).bind fun stats => ?_
  exact (lengthens_stats k rows).widens_found d pattern _ stats

theorem widens_describeTable (t : Table) :
    (d.describeTable false t).Widens (d.describeTable true t) := by
  refine (Widens.refl _).bind fun columns => ?_
  cases columns with
  | none => exact .refl _
  | some columns => exact (lengthens_columns.widens_table d _ columns).bind fun _ => .refl _

theorem widens_describeTables (filter : Filter) (showSystem : Bool) :
    (d.describeTables filter false showSystem).Widens
      (d.describeTables filter true showSystem) := by
  unfold describeTables
  split
  · refine (Widens.refl _).bind fun tables => ?_
    cases tables with
    | none => exact .refl _
    | some tables =>
      refine (composes_widens.mapM (fun t => ?_) _).bind fun _ => .refl _
      exact (d.widens_describeTable t).within _
  · exact .refl _

theorem widens_describeRelations (pattern : String) (showSystem : Bool) :
    (d.describeRelations pattern false showSystem).Widens
      (d.describeRelations pattern true showSystem) :=
  (d.widens_describeTables _ showSystem).bind fun _ => .refl _

end Describer

inductive DetailedCommand where
  | listTables (codes pattern : String) (showSystem : Bool)
  | listIndexes (pattern : String) (showSystem : Bool)
  | listFunctions (codes pattern : String) (showSystem : Bool)
  | showStats (pattern : String) (k : Nat)
  | describeRelations (pattern : String) (showSystem : Bool)
  deriving DecidableEq, Repr

namespace DetailedCommand

def command (verbose : Bool) : DetailedCommand → MetaCommand
  | .listTables codes pattern showSystem => .listTables codes pattern verbose showSystem
  | .listIndexes pattern showSystem => .listIndexes pattern verbose showSystem
  | .listFunctions codes pattern showSystem => .listFunctions codes pattern verbose showSystem
  | .showStats pattern k => .showStats pattern verbose k
  | .describeRelations pattern showSystem => .describeRelations pattern verbose showSystem

theorem widens_command (c : DetailedCommand) (d : Describer) :
    ((c.command false).dialogue d).Widens ((c.command true).dialogue d) := by
  cases c with
  | listTables codes pattern showSystem => exact d.widens_listTables codes pattern showSystem
  | listIndexes pattern showSystem => exact d.widens_listIndexes pattern showSystem
  | listFunctions codes pattern showSystem => exact d.widens_listFunctions codes pattern showSystem
  | showStats pattern k => exact d.widens_showStats pattern k
  | describeRelations pattern showSystem => exact d.widens_describeRelations pattern showSystem

end DetailedCommand

namespace Describer

variable (d : Describer) (s : Snapshot) (declined : Capabilities)

/-- Only the reports on tables depend on how much is shown. -/
theorem exists_relationDocuments_eq (pattern : String) (showSystem : Bool) :
    ∃ last, ∀ verbose, d.relationDocuments s declined pattern verbose showSystem =
      ((d.describedTables s declined (matching pattern showSystem) showSystem).flatMap fun t =>
        d.columnListing s declined verbose t :: d.summaryDocuments s declined t) ++
      (d.describedSequences s declined (matching pattern showSystem) showSystem).flatMap
        d.sequenceReport ++
      (d.describedIndexes s declined (matching pattern showSystem) showSystem).flatMap
        (d.indexReport s declined) ++ last := by
  refine ⟨if d.describedTables s declined (matching pattern showSystem) showSystem = [] ∧
    d.describedSequences s declined (matching pattern showSystem) showSystem = [] ∧
      d.matchedIndexes s declined (matching pattern showSystem) showSystem = [] then
        [notFoundDocument pattern] else [], fun verbose => ?_⟩
  unfold relationDocuments
  exact congrArg _ (if_congr (d.nothing_found_iff s declined _ verbose showSystem) rfl rfl)

/-- A verbose command is the plain one with wider tables: whatever is answered and whether documents
are taken or not, it asks the same, but for more groups of statistics, and hands out the same
documents, but with more columns after those of the plain ones. So with a snapshot the two end alike
after the same queries; in a description only the reports on tables differ. -/
theorem run_verbose (s : Snapshot) (offers declined : Capabilities) (config : Config)
    (c : DetailedCommand) (encoder : Encoder) (tally : Tally) (sink : Sink) :
    let r := s.reader offers declined
    let d : Describer := .ofReader r config
    let command (verbose : Bool) := (c.command verbose).dialogue d
    let run (verbose : Bool) := (command verbose).run r encoder tally sink
    let documents (verbose : Bool) := (command verbose).handed r encoder tally sink
    (command false).Widens (command true) ∧
    (sink.limit = none →
      (run true).1 = (run false).1 ∧ (run true).2.1 = (run false).2.1 ∧
      List.Forall₂ Exchange.Widens ((command false).exchanges r encoder tally sink)
        ((command true).exchanges r encoder tally sink) ∧
      List.Forall₂ Document.Widens (documents false) (documents true) ∧
      (∀ verbose, (run verbose).2.2.text = sink.text ++ encoder.encodeAll (documents verbose)) ∧
      ∀ pattern showSystem, c = .describeRelations pattern showSystem →
        let filter := matching pattern showSystem
        ∃ last, ∀ verbose, documents verbose =
          ((d.describedTables s declined filter showSystem).flatMap fun t =>
            d.columnListing s declined verbose t :: d.summaryDocuments s declined t) ++
          (d.describedSequences s declined filter showSystem).flatMap d.sequenceReport ++
          (d.describedIndexes s declined filter showSystem).flatMap (d.indexReport s declined) ++
          last) := by
  intro r d command run documents
  have widens := c.widens_command d
  refine ⟨widens, fun unlimited => ?_⟩
  obtain ⟨outcome, asked, exchanges, wider⟩ :=
    widens.run (s.overlooks_reader offers declined) encoder tally unlimited unlimited
  refine ⟨outcome, asked, exchanges, wider, fun verbose => ?_,
    fun pattern showSystem relations => ?_⟩
  · exact (command verbose).run_text_handed r encoder tally unlimited
  · subst relations
    obtain ⟨last, split⟩ := d.exists_relationDocuments_eq s declined pattern showSystem
    refine ⟨last, fun verbose => ?_⟩
    rw [← split verbose]
    exact (d.tells_relationDocuments s declined pattern verbose showSystem).handed_eq
      (s.steady_reader offers declined) encoder tally unlimited

/-- The statistics of a column, plain and verbose: two queries each, and two tables of which one is
wider. -/
theorem run_verbose_stats :
    let s : Snapshot := { columnStats := [{ table := "t", name := "c", min := "1", max := "9" }] }
    let r := s.reader .all .none
    let command (verbose : Bool) :=
      ((DetailedCommand.showStats "t" 1).command verbose).dialogue (.ofReader r {})
    let run (verbose : Bool) := (command verbose).run r .table [] {}
    (run true).1 = (run false).1 ∧ (run true).2.1 = [.columnStats, .tables] ∧
      List.Forall₂ Document.Widens ((command false).handed r .table [] {})
        ((command true).handed r .table [] {}) := by
  intro s r command run
  obtain ⟨-, alike⟩ := run_verbose s .all .none {} (.showStats "t" 1) .table [] {}
  obtain ⟨outcome, asked, -, wider, -⟩ := alike rfl
  exact ⟨outcome, asked.trans rfl, wider⟩

end Describer

end CatalogReport
