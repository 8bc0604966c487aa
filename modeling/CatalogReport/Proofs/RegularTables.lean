import CatalogReport.Proofs.JsonRows
import CatalogReport.Proofs.VerboseReports

/-!
# Tables without gaps

A JSON row has one member for a header that repeats and none for a cell without a header, so it
holds all of its cells only if the headers differ and there is one for each cell (`Grid.Regular`).
Every projection that a command shows rows by is like that (`Describer.Fits`), those of the kinds as
well as those of the commands; so are all tables that a command hands out, whatever it is answered
(`handsOnly_dialogue`), and in JSON none of their cells is lost (`handed_regular`).
-/

namespace CatalogReport

/-! ## Regular documents -/

/-- The headers differ from each other, and every row has one cell for each. -/
structure Grid.Regular (grid : Grid) : Prop where
  distinct : grid.headers.Nodup
  full : ∀ row ∈ grid.rows, row.length = grid.headers.length

namespace Document

def Regular : Document → Prop
  | .table grid _ => grid.Regular
  | .lines _ => True
  | .verbatim _ => True

/-- The document is a text that is handed out as it is. -/
def IsVerbatim (document : Document) : Prop :=
  ∃ text, document = .verbatim text

theorem IsVerbatim.regular {document : Document} (h : document.IsVerbatim) : document.Regular := by
  obtain ⟨text, rfl⟩ := h
  exact trivial

end Document

/-! ## Rows in JSON -/

namespace Encoder

/-- The members have the headers of the row as keys, each once, and each cell as the value of its
own header. -/
structure KeepsRow (headers : List String) (row : List Cell) (members : List (String × Json)) :
    Prop where
  keys : (members.map Prod.fst).Perm headers
  values : ∀ (i : Nat) header cell, headers[i]? = some header → row[i]? = some cell →
    ∃ value, members.lookup header = some value ∧ cell.Decodes value

theorem RowDecodes.keepsRow {headers : List String} {row : List Cell}
    {members : List (String × Json)} (h : RowDecodes headers row members)
    (distinct : headers.Nodup) (full : row.length = headers.length) :
    KeepsRow headers row members where
  keys := by
    refine (List.perm_ext_iff_of_nodup h.nodup distinct).2 fun header =>
      ⟨fun key => ?_, fun known => ?_⟩
    · obtain ⟨⟨_, value⟩, member, rfl⟩ := List.mem_map.1 key
      obtain ⟨i, cell, place, -⟩ := h.last _ value member
      exact List.mem_of_getElem? place
    · obtain ⟨i, inside, rfl⟩ := List.mem_iff_getElem.1 known
      exact h.covered i _ row[i] (List.getElem?_eq_getElem inside) (List.getElem?_eq_getElem _)
  values i header cell place held := by
    obtain ⟨⟨_, value⟩, member, rfl⟩ := List.mem_map.1 (h.covered i header cell place held)
    refine ⟨value, SortedMap.lookup_of_mem h.nodup member, ?_⟩
    obtain ⟨j, last, there, shown, decodes, -⟩ := h.last _ value member
    -- The headers differ, so the place of the member is that of the cell.
    have inside : i < headers.length := (List.getElem?_eq_some_iff.1 place).1
    obtain rfl : i = j := (List.getElem?_inj inside distinct).1 (place.trans there.symm)
    obtain rfl : cell = last := Option.some.inj (held.symm.trans shown)
    exact decodes

theorem forall₂_keepsRow {grid : Grid} (h : grid.Regular) :
    List.Forall₂ (KeepsRow grid.headers) grid.rows (grid.rows.map (rowMembers grid.headers)) :=
  List.forall₂_map_right_iff.2 <| List.forall₂_same.2 fun row shown =>
    (rowDecodes_rowMembers grid.headers row).keepsRow h.distinct (h.full row shown)

end Encoder

/-! ## Dialogues -/

namespace Dialogue

variable {α β σ : Type} {P Q : Document → Prop}

/-- Whatever it is answered, the dialogue hands out only documents that satisfy `P`. -/
def HandsOnly (P : Document → Prop) : Dialogue α → Prop
  | .done _ => True
  | .fail _ => True
  | .ask _ _ next => ∀ answer, (next answer).HandsOnly P
  | .hand document next => P document ∧ ∀ reply, (next reply).HandsOnly P

theorem handsOnly_done (value : α) : (done value).HandsOnly P :=
  trivial

theorem handsOnly_put {document : Document} (h : P document) : (put document).HandsOnly P := by
  refine ⟨h, fun reply => ?_⟩
  cases reply <;> exact trivial

theorem HandsOnly.bind {d : Dialogue α} {f : α → Dialogue β} (h : d.HandsOnly P)
    (hf : ∀ value, (f value).HandsOnly P) : (d >>= f).HandsOnly P := by
  rw [bind_eq]
  induction d with
  | done value => exact hf value
  | fail failure => exact trivial
  | ask k filter next ih => exact fun answer => ih answer (h answer)
  | hand document next ih => exact ⟨h.1, fun reply => ih reply (h.2 reply)⟩

theorem HandsOnly.within {d : Dialogue α} (h : d.HandsOnly P) (context : String) :
    (d.within context).HandsOnly P := by
  induction d with
  | done value => exact trivial
  | fail failure => exact trivial
  | ask k filter next ih => exact fun answer => ih answer (h answer)
  | hand document next ih => exact ⟨h.1, fun reply => ih reply (h.2 reply)⟩

theorem HandsOnly.mono {d : Dialogue α} (h : d.HandsOnly P)
    (weaker : ∀ document, P document → Q document) :
    d.HandsOnly Q := by
  induction d with
  | done value => exact trivial
  | fail failure => exact trivial
  | ask k filter next ih => exact fun answer => ih answer (h answer)
  | hand document next ih => exact ⟨weaker document h.1, fun reply => ih reply (h.2 reply)⟩

theorem Wordless.handsOnly {d : Dialogue α} (h : d.Wordless) : d.HandsOnly P := by
  induction d with
  | done value => exact trivial
  | fail failure => exact trivial
  | ask k filter next ih => exact fun answer => ih answer (h answer)
  | hand document next ih => exact h.elim

theorem composes_handsOnly (P : Document → Prop) : Composes fun _ x _ => x.HandsOnly P where
  done := handsOnly_done
  bind := HandsOnly.bind
  within := HandsOnly.within

theorem handsOnly_mapM {f : α → Dialogue β} (hf : ∀ a, (f a).HandsOnly P) (items : List α) :
    (items.mapM f).HandsOnly P :=
  (composes_handsOnly P).mapM (g := f) hf items

theorem handsOnly_forM {f : α → Dialogue PUnit} (hf : ∀ a, (f a).HandsOnly P) (items : List α) :
    (items.forM f).HandsOnly P :=
  (composes_handsOnly P).forM (g := f) hf items

theorem HandsOnly.of_mem_handed {d : Dialogue α} (h : d.HandsOnly P) {r : Reader σ}
    {encoder : Encoder} {state : σ} {sink : Sink} {document : Document}
    (handed : document ∈ d.handed r encoder state sink) :
    P document := by
  induction d generalizing state sink with
  | done value => cases handed
  | fail failure => cases handed
  | ask k filter next ih => exact ih _ (h _) handed
  | hand first next ih =>
    unfold Dialogue.handed at handed
    rcases List.mem_cons.1 handed with rfl | later
    · exact h.1
    · split at later
      · exact ih _ (h.2 _) later
      · exact ih _ (h.2 _) later

end Dialogue

/-! ## Projections -/

open Dialogue (HandsOnly handsOnly_done handsOnly_put handsOnly_mapM handsOnly_forM)

namespace Describer

/-- Headers that differ from each other, and as many cells of every row. -/
structure Fits {α : Type} (names : List String) (cells : α → List Cell) : Prop where
  distinct : names.Nodup
  full : ∀ row, (cells row).length = names.length

/-- The rows of every kind fit under the headers of the kind. -/
theorem fits_kind (k : Kind) : Fits (Entity.headers k.Row) (Entity.cells (α := k.Row)) := by
  cases k <;> exact ⟨by decide, fun _ => rfl⟩

theorem fits_tables (verbose : Bool) : Fits (tableHeaders verbose) (tableCells verbose) := by
  cases verbose <;> exact ⟨by decide, fun _ => rfl⟩

theorem fits_indexes (verbose : Bool) : Fits (indexHeaders verbose) (indexCells verbose) := by
  cases verbose <;> exact ⟨by decide, fun _ => rfl⟩

theorem fits_functions (verbose : Bool) :
    Fits (functionHeaders verbose) (functionCells verbose) := by
  cases verbose <;> exact ⟨by decide, fun _ => rfl⟩

theorem fits_columns (verbose : Bool) : Fits (columnHeaders verbose) (columnCells verbose) := by
  cases verbose <;> exact ⟨by decide, fun _ => rfl⟩

theorem fits_stats (verbose : Bool) (k : Nat) (rows : Int64) :
    Fits (statHeaders verbose) (statCells verbose k rows) := by
  cases verbose <;> exact ⟨by decide, fun _ => rfl⟩

theorem fits_indexColumns :
    Fits ["Name", "Type"] fun c : IndexColumn => [(c.name : Cell), (c.dataType : Cell)] :=
  ⟨by decide, fun _ => rfl⟩

variable (d : Describer)

namespace Fits

variable {α : Type} {names : List String} {cells : α → List Cell}

theorem regular (h : Fits names cells) (rows : List α) : Grid.Regular ⟨names, rows.map cells⟩ where
  distinct := h.distinct
  full _ shown := by
    obtain ⟨row, -, rfl⟩ := List.mem_map.1 shown
    exact h.full row

theorem handsOnly_table (h : Fits names cells) (title : String) (rows : List α) :
    (d.table title names (rows.map cells)).HandsOnly Document.Regular :=
  handsOnly_put (h.regular rows)

theorem handsOnly_tableOrNotFound (h : Fits names cells) (empty : Bool) (pattern title : String)
    (rows : List α) :
    (if empty then notFound pattern else d.table title names (rows.map cells)).HandsOnly
      Document.Regular := by
  cases empty with
  | true => exact handsOnly_put trivial
  | false => exact h.handsOnly_table d title rows

end Fits

/-! ## Parts of commands -/

theorem handsOnly_primary (command : String) (k : Kind) (filter : Filter) (context : String) :
    (d.primary command k filter context).HandsOnly Document.Regular :=
  (d.wordless_primary command k filter context).handsOnly

theorem handsOnly_listing (command title : String) (k : Kind) (filter : Filter) (context : String)
    (kept : List k.Row → List k.Row) :
    (d.primary command k filter context >>= fun rows => d.listing title (kept rows)).HandsOnly
      Document.Regular :=
  (d.handsOnly_primary command k filter context).bind fun rows =>
    (fits_kind k).handsOnly_table d title (kept rows)

theorem handsOnly_listDatabases (pattern : String) (verbose : Bool)
    (override : ∀ list, d.config.listDatabases = some list →
      ∀ pattern verbose, (list pattern verbose).HandsOnly Document.IsVerbatim) :
    (d.listDatabases pattern verbose).HandsOnly Document.Regular := by
  unfold listDatabases
  split
  · rename_i list replaced
    exact (override list replaced pattern verbose).mono fun _ => Document.IsVerbatim.regular
  · exact d.handsOnly_listing _ _ .catalogs _ _ id

theorem handsOnly_listFunctions (codes pattern : String) (verbose showSystem : Bool) :
    (d.listFunctions codes pattern verbose showSystem).HandsOnly Document.Regular := by
  refine (d.handsOnly_primary _ _ _ _).bind fun rows => ?_
  have asks := d.asks_wordless.mapM (g := d.withArguments) d.asks_wordless.withArguments
    (d.visible showSystem rows)
  exact asks.handsOnly.bind fun functions => (fits_functions verbose).handsOnly_table d _ functions

theorem handsOnly_showStats (pattern : String) (verbose : Bool) (k : Nat) :
    (d.showStats pattern verbose k).HandsOnly Document.Regular := by
  refine (d.wordless_require _ _).handsOnly.bind fun _ => ?_
  refine (d.asks_wordless.rowsOfFirst pattern).handsOnly.bind fun rows => ?_
  refine (d.handsOnly_primary _ _ _ _).bind fun stats => ?_
  exact (fits_stats verbose k rows).handsOnly_tableOrNotFound d _ pattern _ stats

theorem handsOnly_describeTable (verbose : Bool) (t : Table) :
    (d.describeTable verbose t).HandsOnly Document.Regular := by
  refine (d.asks_wordless.optional _ _ _).handsOnly.bind fun columns => ?_
  cases columns with
  | none => exact handsOnly_done false
  | some columns =>
    refine ((fits_columns verbose).handsOnly_table d _ columns).bind fun _ => ?_
    refine (d.asks_wordless.tableSummary t.schema t.name).handsOnly.bind fun summary => ?_
    dsimp only
    split
    · exact handsOnly_done true
    · exact (handsOnly_put trivial).bind fun _ => handsOnly_done true

theorem handsOnly_describeTables (filter : Filter) (verbose showSystem : Bool) :
    (d.describeTables filter verbose showSystem).HandsOnly Document.Regular := by
  unfold describeTables
  split
  · refine (d.asks_wordless.optional _ _ _).handsOnly.bind fun tables => ?_
    cases tables with
    | none => exact handsOnly_done false
    | some tables =>
      refine (handsOnly_mapM (fun t => ?_) _).bind fun _ => handsOnly_done _
      exact (d.handsOnly_describeTable verbose t).within _
  · exact handsOnly_done false

theorem handsOnly_describeSequences (filter : Filter) (showSystem : Bool) :
    (d.describeSequences filter showSystem).HandsOnly Document.Regular := by
  refine (d.wordless_optional _ _).handsOnly.bind fun sequences => ?_
  cases sequences with
  | none => exact handsOnly_done false
  | some sequences =>
    have described (s : Sequence) : (d.describeSequence s).HandsOnly Document.Regular :=
      handsOnly_put ((fits_kind .sequences).regular [s])
    exact (handsOnly_forM described _).bind fun _ => handsOnly_done _

theorem handsOnly_describeIndex (i : Index) :
    (d.describeIndex i).HandsOnly Document.Regular := by
  refine (d.asks_wordless.optional _ _ _).handsOnly.bind fun columns => ?_
  cases columns with
  | none => exact handsOnly_done ()
  | some columns =>
    dsimp only
    split
    · exact handsOnly_done ()
    · exact (fits_indexColumns.handsOnly_table d _ columns).bind fun _ => handsOnly_put trivial

theorem handsOnly_describeIndexes (filter : Filter) (name : String) (showSystem : Bool) :
    (d.describeIndexes filter name showSystem).HandsOnly Document.Regular := by
  unfold describeIndexes
  split
  · refine (d.asks_wordless.optional _ _ _).handsOnly.bind fun indexes => ?_
    cases indexes with
    | none => exact handsOnly_done false
    | some indexes =>
      refine (handsOnly_forM (fun i => ?_) _).bind fun _ => handsOnly_done _
      exact (d.handsOnly_describeIndex i).within _
  · exact handsOnly_done false

theorem handsOnly_describeRelations (pattern : String) (verbose showSystem : Bool) :
    (d.describeRelations pattern verbose showSystem).HandsOnly Document.Regular := by
  refine (d.handsOnly_describeTables _ verbose showSystem).bind fun tables => ?_
  refine ((d.handsOnly_describeSequences _ showSystem).within _).bind fun sequences => ?_
  refine (d.handsOnly_describeIndexes _ _ showSystem).bind fun indexes => ?_
  split
  · exact handsOnly_done ()
  · exact handsOnly_put trivial

end Describer

/-! ## Commands -/

namespace MetaCommand

/-- Whatever is answered, a command hands out no table with gaps. -/
theorem handsOnly_dialogue (c : MetaCommand) (d : Describer)
    (override : ∀ list, d.config.listDatabases = some list →
      ∀ pattern verbose, (list pattern verbose).HandsOnly Document.IsVerbatim) :
    (c.dialogue d).HandsOnly Document.Regular := by
  cases c with
  | listDatabases pattern verbose => exact d.handsOnly_listDatabases pattern verbose override
  | listSchemas pattern _ showSystem =>
    exact d.handsOnly_listing _ _ .schemas _ _ (d.visible showSystem)
  | describeRelations pattern verbose showSystem =>
    exact d.handsOnly_describeRelations pattern verbose showSystem
  | listTables codes pattern verbose showSystem =>
    exact (d.handsOnly_primary _ _ _ _).bind fun _ =>
      (Describer.fits_tables verbose).handsOnly_tableOrNotFound d _ pattern _ _
  | listIndexes pattern verbose showSystem =>
    exact (d.handsOnly_primary _ _ _ _).bind fun _ =>
      (Describer.fits_indexes verbose).handsOnly_tableOrNotFound d _ pattern _ _
  | listFunctions codes pattern verbose showSystem =>
    exact d.handsOnly_listFunctions codes pattern verbose showSystem
  | showStats pattern verbose k => exact d.handsOnly_showStats pattern verbose k
  | listPrivileges pattern showSystem =>
    exact d.handsOnly_listing _ _ .privilegeSummaries _ _ (d.visible showSystem)

/-- Every table that a run gives to the encoder has headers that differ from each other and rows
with one cell for each; what the configuration does in place of a command has no encoder and writes
texts of its own. So in JSON, in either style, each row is read as a record with one member for each
header, and each of its cells is the value of its own header. -/
theorem handed_regular {σ : Type} (c : MetaCommand) (r : Reader σ) (config : Config)
    (encoder : Encoder) (state : σ) (sink : Sink)
    (override : ∀ list, config.listDatabases = some list →
      ∀ pattern verbose, (list pattern verbose).HandsOnly Document.IsVerbatim)
    {grid : Grid} {o : Options}
    (handed : .table grid o ∈ (c.dialogue (.ofReader r config)).handed r encoder state sink) :
    grid.headers.Nodup ∧ (∀ row ∈ grid.rows, row.length = grid.headers.length) ∧
      ∃ rows, List.Forall₂ (Encoder.KeepsRow grid.headers) grid.rows rows ∧
        ∀ style, ∃ text, Encoder.encode (.json style) (.table grid o) = text ++ "\n" ∧
          Encoder.Spells text (.record [("rows", .list (rows.map .record)),
            ("title", (o.title.map .text).getD .null)]) := by
  have regular : grid.Regular :=
    (c.handsOnly_dialogue (.ofReader r config) override).of_mem_handed handed
  refine ⟨regular.distinct, regular.full, _, Encoder.forall₂_keepsRow regular, fun style => ?_⟩
  rw [List.map_map]
  exact Encoder.exists_spells_grid grid o style

/-- The statistics of a column in detail: twelve headers, and in JSON twelve members. -/
theorem handed_regular_stats :
    let stat : ColumnStat := { table := "t", name := "c", min := "1", max := "9" }
    let r := ({ columnStats := [stat] } : Snapshot).reader .all .none
    let documents :=
      ((showStats "" true 1).dialogue (.ofReader r {})).handed r (.json .compact) [] {}
    let headers := Describer.statHeaders true
    let row := Describer.statCells true 1 0 stat
    let o := ({} : Options).withTitle "Column stats"
    documents = [.table ⟨headers, [row]⟩ o] ∧ row.length = headers.length ∧
      ∃ members, members.length = 12 ∧ Encoder.KeepsRow headers row members := by
  intro stat r documents headers row o
  have shown : documents = [.table ⟨headers, [row]⟩ o] := by rfl
  have handed : .table ⟨headers, [row]⟩ o ∈ documents := by
    rw [shown]
    exact List.mem_cons_self
  obtain ⟨-, full, rows, kept, -⟩ :=
    handed_regular (.showStats "" true 1) r {} (.json .compact) [] {} nofun handed
  refine ⟨shown, full row List.mem_cons_self, ?_⟩
  cases kept with
  | cons first _ =>
    have twelve : headers.length = 12 := rfl
    exact ⟨_, by simpa using first.keys.length_eq.trans twelve, first⟩

end MetaCommand

end CatalogReport
