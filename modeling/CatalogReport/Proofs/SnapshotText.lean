import CatalogReport.Catalog.Snapshot
import CatalogReport.Proofs.JsonCodec

/-!
# Snapshots survive their text

A snapshot is stable (`Snapshot.Stable`) when the kind of each constraint in it can be read and each
float in it is read as itself from its own text. The text of a stable snapshot loads to the
snapshot. Loading only gives constraint kinds that can be read, so of what was loaded only the
floats are to be asked about: some are written with digits that are read as a neighbour.
-/

namespace CatalogReport

/-! ## Constraint kinds -/

/-- The kind is one that is read from some text. -/
def ConstraintKind.Readable (kind : ConstraintKind) : Prop :=
  ∃ name, ConstraintKind.ofName name = kind

theorem ConstraintKind.Readable.ofName_name {kind : ConstraintKind} (h : kind.Readable) :
    ofName kind.name = kind := by
  obtain ⟨s, rfl⟩ := h
  generalize e : ofName s = kind
  cases kind with
  | other t =>
    have same : t = s := by
      unfold ofName at e
      grind
    exact same ▸ e
  | primaryKey => decide +kernel
  | unique => decide +kernel
  | foreignKey => decide +kernel
  | check => decide +kernel
  | unknown => decide +kernel

@[simp]
theorem restores_constraintKind {kind : ConstraintKind} (h : kind.Readable) :
    ConstraintKind.codec.Restores kind :=
  Codec.restores_imap (Codec.restores_text _) h.ofName_name

theorem yields_constraintKind : ConstraintKind.codec.Yields ConstraintKind.Readable :=
  Codec.yields_imap fun name => ⟨name, rfl⟩

/-! ## Rows -/

open Codec (Restores Yields Rereads restores_ofFields legible_ofFields)

def ColumnStat.FloatsReread (stat : ColumnStat) : Prop :=
  Rereads stat.nullFrac ∧ ∀ value ∈ stat.topN, Rereads value.frequency

theorem legible_topValue : TopValue.codec.Legible :=
  legible_ofFields _ (by simp)

theorem restores_topValue {value : TopValue} (h : Rereads value.frequency) :
    TopValue.codec.Restores value :=
  restores_ofFields (by decide) (by simp [Codec.restores_float h])

/-- What a row must have to survive its text. -/
def Kind.Stable : (k : Kind) → k.Row → Prop
  | .constraints, c => c.type.Readable
  | .columnStats, stat => stat.FloatsReread
  | _, _ => True

theorem legible_row (k : Kind) : (Entity.codec (α := k.Row)).Legible := by
  refine legible_ofFields _ ?_
  cases k with
  | constraints => simp [Entity.fields, ConstraintKind.codec, Codec.legible_imap]
  | columnStats => simp [Entity.fields, Codec.legible_list legible_topValue]
  | _ => simp [Entity.fields]

theorem restores_row {k : Kind} {row : k.Row} (h : k.Stable row) : Entity.codec.Restores row := by
  refine restores_ofFields ?_ ?_
  · cases k <;> decide
  · cases k with
    | constraints => simp [Entity.fields, Entity.empty, restores_constraintKind h]
    | columnStats =>
      have topN : (Codec.list TopValue.codec).Restores row.topN :=
        Codec.restores_list fun value hv => restores_topValue (h.2 value hv)
      simp [Entity.fields, Entity.empty, Codec.restores_float h.1, topN]
    | _ => simp [Entity.fields, Entity.empty]

/-! ## Snapshots -/

namespace Snapshot

def FloatsReread (s : Snapshot) : Prop :=
  ∀ stat ∈ s.columnStats, stat.FloatsReread

def Stable (s : Snapshot) : Prop :=
  ∀ k, ∀ row ∈ s.rows k, k.Stable row

theorem stable_of {s : Snapshot} (kinds : ∀ c ∈ s.constraints, c.type.Readable)
    (floats : s.FloatsReread) : s.Stable := by
  intro k row hrow
  cases k with
  | constraints => exact kinds row hrow
  | columnStats => exact floats row hrow
  | _ => trivial

theorem legible_rows (k : Kind) : (Codec.list (Entity.codec (α := k.Row))).Legible :=
  Codec.legible_list (legible_row k)

theorem legible : codec.Legible := by
  refine legible_ofFields _ ?_
  have rows := legible_rows
  simp only [List.forall_mem_cons]
  refine ⟨Codec.legible_of Codec.legible_text, ?_⟩
  refine ⟨Codec.legible_of (rows .catalogs), Codec.legible_of (rows .schemas), ?_⟩
  refine ⟨Codec.legible_of (rows .tables), Codec.legible_of (rows .columns), ?_⟩
  refine ⟨Codec.legible_of (rows .indexes), Codec.legible_of (rows .indexColumns), ?_⟩
  refine ⟨Codec.legible_of (rows .constraints), Codec.legible_of (rows .constraintColumns), ?_⟩
  refine ⟨Codec.legible_of (rows .sequences), Codec.legible_of (rows .triggers), ?_⟩
  refine ⟨Codec.legible_of (rows .functions), Codec.legible_of (rows .functionColumns), ?_⟩
  refine ⟨Codec.legible_of (rows .columnStats), Codec.legible_of (rows .privilegeSummaries), ?_⟩
  simp

theorem Stable.restores_rows {s : Snapshot} (h : s.Stable) (k : Kind) :
    (Codec.list (Entity.codec (α := k.Row))).Restores (s.rows k) :=
  Codec.restores_list fun row hrow => restores_row (h k row hrow)

theorem Stable.restores {s : Snapshot} (h : s.Stable) : codec.Restores s := by
  have rows := h.restores_rows
  refine restores_ofFields (by decide) (.of (Codec.restores_text _) ?_)
  refine .of (rows .catalogs) <| .of (rows .schemas) <| ?_
  refine .of (rows .tables) <| .of (rows .columns) <| ?_
  refine .of (rows .indexes) <| .of (rows .indexColumns) <| ?_
  refine .of (rows .constraints) <| .of (rows .constraintColumns) <| ?_
  refine .of (rows .sequences) <| .of (rows .triggers) <| ?_
  refine .of (rows .functions) <| .of (rows .functionColumns) <| ?_
  refine .of (rows .columnStats) <| .of (rows .privilegeSummaries) <| ?_
  rfl

/-- Loading the text of a snapshot is reading the draft of what was written. -/
theorem ofText_eq (s : Snapshot) :
    ofText s.toText = (codec.read (codec.write s).draft).mapError .snapshot := by
  unfold ofText toText
  rw [Codec.parse_write codec (legible s)]

theorem Stable.ofText_eq {s : Snapshot} (h : s.Stable) : ofText s.toText = .ok s := by
  have restored : codec.read (codec.write s).draft = .ok s := h.restores
  rw [Snapshot.ofText_eq, restored]
  rfl

/-! ## Loaded snapshots -/

/-- A constraint starts with an unknown kind, and only its type field reads one. -/
theorem yields_constraint : (Entity.codec (α := Constraint)).Yields fun c => c.type.Readable := by
  refine Codec.yields_ofFields ?_ ⟨"", by decide +kernel⟩
  have type : Codec.Keeps (fun c : Constraint => c.type.Readable)
      (.of "type" ConstraintKind.codec (·.type) fun v a => { a with type := v }) :=
    Codec.keeps_of yields_constraintKind fun _ _ readable _ => readable
  simp [Entity.fields, Codec.keeps_other, type]

theorem yields_readable : codec.Yields fun s => ∀ c ∈ s.constraints, c.type.Readable := by
  refine Codec.yields_ofFields ?_ (by simp)
  have constraints : Codec.Keeps (fun s : Snapshot => ∀ c ∈ s.constraints, c.type.Readable)
      (.of "constraints" (.list Entity.codec) (·.constraints)
        fun v s => { s with constraints := v }) :=
    Codec.keeps_of (Codec.yields_list yields_constraint) fun _ _ readable _ => readable
  simp [Codec.keeps_other, constraints]

/-- Only its floats can keep a loaded snapshot from surviving its text. -/
theorem stable_of_ofText {text : String} {s : Snapshot} (h : ofText text = .ok s)
    (floats : s.FloatsReread) : s.Stable := by
  have parsed : codec.parse text = .ok s := Codec.ok_of_mapError h
  exact stable_of (yields_readable.parse parsed) floats

/-- The text of a snapshot loads to the snapshot when its constraint kinds can be read and its
floats are read as themselves; of a snapshot that was loaded, only the latter is to be asked. -/
theorem ofText_toText :
    (∀ s : Snapshot, (∀ c ∈ s.constraints, c.type.Readable) → s.FloatsReread →
      ofText s.toText = .ok s) ∧
    ∀ (text : String) (s : Snapshot), ofText text = .ok s → s.FloatsReread →
      ofText s.toText = .ok s := by
  refine ⟨fun s kinds floats => ?_, fun text s loaded floats => ?_⟩
  · exact (stable_of kinds floats).ofText_eq
  · exact (stable_of_ofText loaded floats).ofText_eq

/-- A share that is read as itself, beside a text with every sort of escape. -/
def quarter : Snapshot where
  driver := "a\"\\\n\x01é"
  constraints := [{ name := "c", type := .other "exclude" }]
  columnStats := [{ nullFrac := 0.25, numDistinct := -1, topN := [⟨"x", 0.25⟩] }]

def quarterText : String :=
  "\x7b\"columnStats\":[\x7b\"nullFrac\":0.25\x7d]\x7d"

theorem rereads_quarter : Rereads 0.25 := by
  rfl

theorem ofText_toText_quarter :
    ((∀ c ∈ quarter.constraints, c.type.Readable) ∧ quarter.FloatsReread ∧
      ofText quarter.toText = .ok quarter) ∧
    ∃ s, ofText quarterText = .ok s ∧ s.FloatsReread ∧ ofText s.toText = .ok s := by
  have kinds : ∀ c ∈ quarter.constraints, c.type.Readable := by
    simp only [quarter, List.mem_singleton, forall_eq]
    exact ⟨"exclude", by decide +kernel⟩
  have floats : quarter.FloatsReread := by
    simp [FloatsReread, quarter, ColumnStat.FloatsReread, rereads_quarter]
  refine ⟨⟨kinds, floats, ofText_toText.1 quarter kinds floats⟩, ?_⟩
  have shares : (ofText quarterText).toOption.map (fun s => s.columnStats.map fun stat =>
      (stat.nullFrac, stat.topN.map (·.frequency))) = some [(0.25, [])] := by decide +kernel
  cases loaded : ofText quarterText with
  | error e => simp [loaded, Except.toOption] at shares
  | ok s =>
    simp only [loaded, Except.toOption, Option.map_some, Option.some.injEq] at shares
    have reread : s.FloatsReread := by
      intro stat hstat
      have share := List.mem_map_of_mem (f := fun stat : ColumnStat =>
        (stat.nullFrac, stat.topN.map (·.frequency))) hstat
      rw [shares, List.mem_singleton, Prod.mk.injEq, List.map_eq_nil_iff] at share
      simp [ColumnStat.FloatsReread, share, rereads_quarter]
    exact ⟨s, rfl, reread, ofText_toText.2 quarterText s loaded reread⟩

/-- A share that is saved with digits that are read as its neighbour. -/
def tinyText : String :=
  "\x7b\"columnStats\":[\x7b\"nullFrac\":1e-24\x7d]\x7d"

theorem ofText_toText_tiny : ∃ s, ofText tinyText = .ok s ∧ ofText s.toText ≠ .ok s := by
  have loads : (ofText tinyText).toOption.isSome = true := by decide +kernel
  have changed : ∀ s ∈ (ofText tinyText).toOption,
      (codec.read (codec.write s).draft).toOption.map (fun t => t.columnStats.map (·.nullFrac)) ≠
        some (s.columnStats.map (·.nullFrac)) := by decide +kernel
  cases loaded : ofText tinyText with
  | error e => simp [loaded, Except.toOption] at loads
  | ok s =>
    refine ⟨s, rfl, fun again => changed s (by rw [loaded]; rfl) ?_⟩
    rw [ofText_eq] at again
    rw [Codec.ok_of_mapError again]
    rfl

end Snapshot

end CatalogReport
