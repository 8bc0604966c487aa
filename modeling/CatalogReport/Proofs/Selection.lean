import CatalogReport.Proofs.Globs
import CatalogReport.Reader.Snapshot

/-!
# What a query of a snapshot answers

The answer to a filter, kind by kind and without the way it is computed: of the stored rows
(`Snapshot.Stores`) those that the filter admits (`Filter.Admits`), by position with ties in the
order of the snapshot where the kind has positions (`Kind.Arranges`), and of rows with one natural
key (`Kind.SameKey`) the first. A query adds one to the count of its kind and to no other, and no
answer depends on the counts.
-/

namespace CatalogReport

/-! ## Admitted rows -/

/-- What a constraint of a kind calls its type. -/
inductive ConstraintKind.Named : ConstraintKind → String → Prop where
  | primaryKey : Named .primaryKey "PRIMARY KEY"
  | unique : Named .unique "UNIQUE"
  | foreignKey : Named .foreignKey "FOREIGN KEY"
  | check : Named .check "CHECK"
  | other (name : String) : Named (.other name) name
  | unknown : Named .unknown ""

theorem ConstraintKind.named_iff {kind : ConstraintKind} {name : String} :
    kind.Named name ↔ kind.name = name := by
  constructor
  · rintro ⟨⟩ <;> rfl
  · rintro rfl
    cases kind <;> constructor

namespace Filter

/-- An empty pattern asks for nothing, any other has to stand for the text. -/
def Finds (pattern text : String) : Prop :=
  pattern ≠ "" → Glob likeWild pattern text

/-- Without types a filter asks for none, otherwise for one of them. -/
def WantsType (f : Filter) (type : String) : Prop :=
  f.types.names ≠ [] → type ∈ f.types.names

/-- What a filter asks of the rows of each kind. -/
def Admits (f : Filter) : (k : Kind) → k.Row → Prop
  | .catalogs, (row : Database) => Finds f.catalog row.catalog ∧ Finds f.name row.catalog
  | .schemas, (row : Schema) =>
    Finds f.catalog row.catalog ∧ Finds f.schema row.schema ∧ Finds f.name row.schema
  | .tables, (row : Table) =>
    Finds f.catalog row.catalog ∧ Finds f.schema row.schema ∧ Finds f.name row.name ∧
      f.WantsType row.type
  | .columns, (row : Column) =>
    Finds f.catalog row.catalog ∧ Finds f.schema row.schema ∧ Finds f.parent row.table ∧
      Finds f.name row.name
  | .indexes, (row : Index) =>
    Finds f.catalog row.catalog ∧ Finds f.schema row.schema ∧ Finds f.parent row.table ∧
      Finds f.name row.name ∧ f.WantsType row.type
  | .indexColumns, (row : IndexColumn) =>
    Finds f.catalog row.catalog ∧ Finds f.schema row.schema ∧ Finds f.parent row.table ∧
      Finds f.name row.indexName
  | .constraints, (row : Constraint) =>
    Finds f.catalog row.catalog ∧ Finds f.schema row.schema ∧ Finds f.parent row.table ∧
      Finds f.reference row.foreignTable ∧ Finds f.name row.name ∧
      ∃ type, row.type.Named type ∧ f.WantsType type
  | .constraintColumns, (row : ConstraintColumn) =>
    Finds f.catalog row.catalog ∧ Finds f.schema row.schema ∧ Finds f.parent row.table ∧
      Finds f.name row.constraint
  | .sequences, (row : Sequence) =>
    Finds f.catalog row.catalog ∧ Finds f.schema row.schema ∧ Finds f.name row.name
  | .triggers, (row : Trigger) =>
    Finds f.catalog row.catalog ∧ Finds f.schema row.schema ∧ Finds f.parent row.table ∧
      Finds f.name row.name
  | .functions, (row : Function) =>
    Finds f.catalog row.catalog ∧ Finds f.schema row.schema ∧ Finds f.name row.name ∧
      f.WantsType row.type
  | .functionColumns, (row : FunctionColumn) =>
    Finds f.catalog row.catalog ∧ Finds f.schema row.schema ∧ Finds f.parent row.function ∧
      Finds f.name row.name
  | .columnStats, (row : ColumnStat) =>
    Finds f.catalog row.catalog ∧ Finds f.schema row.schema ∧ Finds f.parent row.table ∧
      Finds f.name row.name
  | .privilegeSummaries, (row : PrivilegeSummary) =>
    Finds f.catalog row.catalog ∧ Finds f.schema row.schema ∧ Finds f.name row.name ∧
      f.WantsType row.type

theorem like_accepts_iff {pattern text : String} :
    Text.Like.accepts pattern text = true ↔ Finds pattern text := by
  unfold Text.Like.accepts Finds
  rw [Bool.or_eq_true, String.isEmpty_iff, Text.Like.isMatch_iff_glob]
  exact Decidable.or_iff_not_imp_left

theorem acceptsType_iff {f : Filter} {type : String} :
    f.acceptsType type = true ↔ f.WantsType type := by
  unfold acceptsType NameSet.isEmpty WantsType
  rw [Bool.or_eq_true, NameSet.contains_iff, List.isEmpty_iff]
  exact Decidable.or_iff_not_imp_left

theorem accepts_iff {f : Filter} {k : Kind} {row : k.Row} :
    f.accepts k row = true ↔ f.Admits k row := by
  cases k <;>
    simp [accepts, Admits, Attribute.all, Kind.governed, Kind.typeOf, pattern, like_accepts_iff,
      acceptsType_iff, ConstraintKind.named_iff, and_assoc]

instance (f : Filter) (k : Kind) (row : k.Row) : Decidable (f.Admits k row) :=
  decidable_of_iff _ accepts_iff

theorem filter_admits (f : Filter) (k : Kind) (rows : List k.Row) :
    (rows.filter fun row => f.Admits k row) = rows.filter (f.accepts k) := by
  refine List.filter_congr fun row _ => ?_
  rw [Bool.eq_iff_iff, decide_eq_true_iff, accepts_iff]

/-- A filter admits a row by the attributes that it governs and the type that it restricts. -/
theorem admits_iff_governed {f : Filter} {k : Kind} {row : k.Row} :
    f.Admits k row ↔ (∀ a get, k.governed a = some get → Finds (f.pattern a) (get row)) ∧
      ∀ get, k.typeOf = some get → f.WantsType (get row) := by
  rw [← accepts_iff, accepts, Bool.and_eq_true, List.all_eq_true]
  refine and_congr ⟨fun all a get governed => ?_, fun all a _ => ?_⟩ ?_
  · have accepted := all a a.mem_all
    simp only [governed] at accepted
    exact like_accepts_iff.1 accepted
  · cases governed : k.governed a with
    | none => rfl
    | some get => exact like_accepts_iff.2 (all a get governed)
  · cases k.typeOf with
    | none => simp
    | some get => simp [acceptsType_iff]

end Filter

/-! ## Arranged rows -/

/-- The rows in ascending order of their positions, those at one position in their old order. -/
structure StableBy {α : Type} (position : α → Int) (rows listed : List α) : Prop where
  perm : listed.Perm rows
  ascending : listed.Pairwise fun a b => position a ≤ position b
  stable : ∀ p, (listed.filter fun a => position a = p) = rows.filter fun a => position a = p

theorem stableBy_mergeSort {α : Type} (position : α → Int) (rows : List α) :
    StableBy position rows (rows.mergeSort fun a b => position a ≤ position b) := by
  have trans : ∀ a b c : α, decide (position a ≤ position b) = true →
      decide (position b ≤ position c) = true → decide (position a ≤ position c) = true := by
    intro a b c
    simp only [decide_eq_true_eq]
    omega
  have total : ∀ a b : α,
      (decide (position a ≤ position b) || decide (position b ≤ position a)) = true := by
    intro a b
    simp only [Bool.or_eq_true, decide_eq_true_eq]
    omega
  have perm := List.mergeSort_perm rows fun a b => decide (position a ≤ position b)
  refine ⟨perm, ?_, fun p => ?_⟩
  · exact (List.pairwise_mergeSort trans total rows).imp fun h => of_decide_eq_true h
  · -- The rows at one position are in order already, so sorting keeps them as they stand.
    have level : (rows.filter fun a => position a = p).Pairwise fun a b =>
        decide (position a ≤ position b) = true := by
      refine List.Pairwise.imp_of_mem ?_ (List.pairwise_of_forall (R := fun _ _ => True) ?_)
      · intro a b ha hb _
        have pa : position a = p := by simpa using (List.mem_filter.1 ha).2
        have pb : position b = p := by simpa using (List.mem_filter.1 hb).2
        simp [pa, pb]
      · intros
        trivial
    have kept := (List.sublist_mergeSort trans total level List.filter_sublist).filter
      fun a => decide (position a = p)
    rw [List.filter_filter] at kept
    simp only [Bool.and_self] at kept
    exact (kept.eq_of_length (perm.filter _).length_eq.symm).symm

theorem position_head_le {α : Type} {position : α → Int} {a b : α} {rows : List α}
    (h : (a :: rows).Pairwise fun a b => position a ≤ position b) (hb : b ∈ a :: rows) :
    position a ≤ position b := by
  rcases List.mem_cons.1 hb with rfl | hb
  · exact Int.le_refl _
  · exact (List.pairwise_cons.1 h).1 b hb

/-- Ascending lists of the same rows are equal if they are so at every position. -/
theorem eq_of_levels {α : Type} {position : α → Int} {rows rows' : List α}
    (perm : rows.Perm rows') (h : rows.Pairwise fun a b => position a ≤ position b)
    (h' : rows'.Pairwise fun a b => position a ≤ position b)
    (levels : ∀ p, (rows.filter fun a => position a = p) = rows'.filter fun a => position a = p) :
    rows = rows' := by
  induction rows generalizing rows' with
  | nil => exact perm.nil_eq
  | cons a rows ih =>
    cases rows' with
    | nil => exact absurd perm.symm.nil_eq (by simp)
    | cons b rows' =>
      have same : position b = position a := by
        have below := position_head_le h (perm.mem_iff.2 List.mem_cons_self)
        have above := position_head_le h' (perm.mem_iff.1 List.mem_cons_self)
        omega
      have front := levels (position a)
      rw [List.filter_cons_of_pos (by simp), List.filter_cons_of_pos (by simpa using same)] at front
      obtain rfl : a = b := (List.cons.inj front).1
      have rest : ∀ p, (rows.filter fun a => position a = p) =
          rows'.filter fun a => position a = p := by
        intro p
        have level := levels p
        by_cases here : position a = p
        · simpa [here] using level
        · simpa [here] using level
      rw [ih perm.cons_inv h.of_cons h'.of_cons rest]

/-- There is only one arrangement. -/
theorem StableBy.unique {α : Type} {position : α → Int} {rows listed listed' : List α}
    (h : StableBy position rows listed) (h' : StableBy position rows listed') :
    listed = listed' :=
  eq_of_levels (h.perm.trans h'.perm.symm) h.ascending h'.ascending fun p =>
    (h.stable p).trans (h'.stable p).symm

/-- Rows at ascending positions, no two at one, arrange every list of the same rows. -/
theorem StableBy.of_pairwise_lt {α : Type} {position : α → Int} {rows listed : List α}
    (perm : listed.Perm rows) (apart : listed.Pairwise fun a b => position a < position b) :
    StableBy position rows listed where
  perm := perm
  ascending := apart.imp Int.le_of_lt
  stable p := by
    have level := perm.filter fun a => position a = p
    have alone : (listed.filter fun a => position a = p).Pairwise fun _ _ => False := by
      refine List.Pairwise.imp_of_mem (fun {a b} here there lower => ?_) (apart.filter _)
      have pa : position a = p := by simpa using (List.mem_filter.1 here).2
      have pb : position b = p := by simpa using (List.mem_filter.1 there).2
      omega
    generalize listed.filter (fun a => position a = p) = here at level alone ⊢
    cases here with
    | nil => exact level.nil_eq
    | cons a rest =>
      obtain rfl : rest = [] :=
        List.eq_nil_iff_forall_not_mem.2 fun b => List.rel_of_pairwise_cons alone
      exact List.singleton_perm.1 level

/-- The rows as a query lists them: parts by their position, all others as they are stored. -/
def Kind.Arranges : (k : Kind) → (rows listed : List k.Row) → Prop
  | .columns => StableBy fun row : Column => row.ordinalPosition.toInt
  | .indexColumns => StableBy fun row : IndexColumn => row.ordinalPosition.toInt
  | .constraintColumns => StableBy fun row : ConstraintColumn => row.ordinalPosition.toInt
  | .functionColumns => StableBy fun row : FunctionColumn => row.ordinalPosition.toInt
  | .catalogs | .schemas | .tables | .indexes | .constraints | .sequences | .triggers
  | .functions | .columnStats | .privilegeSummaries => fun rows listed => listed = rows

theorem Kind.arranges_iff {k : Kind} {rows listed : List k.Row} :
    k.Arranges rows listed ↔ listed = k.inPosition rows := by
  have placed {α : Type} (position : α → Int) (rows listed : List α) :
      StableBy position rows listed ↔
        listed = rows.mergeSort fun a b => position a ≤ position b :=
    ⟨fun h => h.unique (stableBy_mergeSort position rows),
      fun e => e ▸ stableBy_mergeSort position rows⟩
  cases k
  case columns => exact placed _ rows listed
  case indexColumns => exact placed _ rows listed
  case constraintColumns => exact placed _ rows listed
  case functionColumns => exact placed _ rows listed
  all_goals exact Iff.rfl

/-! ## First rows -/

namespace Entity

variable {α : Type} [Entity α]

def firsts (rows : List α) : List α :=
  (rows.zipIdx.filter fun entry : α × Nat =>
    decide (∀ row ∈ rows.take entry.2, key row ≠ key entry.1)).map (·.1)

theorem distinctFrom_eq (seen : List (List String)) (rows : List α) :
    distinctFrom seen rows =
      (rows.zipIdx.filter fun entry : α × Nat =>
        decide (key entry.1 ∉ seen ∧ ∀ row ∈ rows.take entry.2, key row ≠ key entry.1)).map
        (·.1) := by
  induction rows generalizing seen with
  | nil => rfl
  | cons row rest ih =>
    -- A later row is kept if no row of `rest` before it has its key and the first has not, either.
    have shifted : ∀ keep : α × Nat → Bool,
        ((rest.zipIdx.map (Prod.map id (· + 1))).filter keep).map (·.1) =
          (rest.zipIdx.filter fun entry => keep (entry.1, entry.2 + 1)).map (·.1) := by
      intro keep
      rw [List.filter_map, List.map_map]
      rfl
    unfold distinctFrom
    rw [List.zipIdx_cons', List.filter_cons]
    by_cases known : key row ∈ seen
    · rw [if_pos (by simpa using known), if_neg (by simp [known]), shifted, ih]
      refine congrArg _ (List.filter_congr fun entry _ => ?_)
      simp only [List.take_succ_cons, List.mem_cons, forall_eq_or_imp, decide_eq_decide]
      exact ⟨fun h => ⟨h.1, fun e => h.1 (e ▸ known), h.2⟩, fun h => ⟨h.1, h.2.2⟩⟩
    · rw [if_neg (by simpa using known), if_pos (by simp [known]), List.map_cons, shifted, ih]
      refine congrArg _ (congrArg _ (List.filter_congr fun entry _ => ?_))
      simp only [List.take_succ_cons, List.mem_cons, forall_eq_or_imp, decide_eq_decide, not_or]
      exact ⟨fun h => ⟨h.1.2, fun e => h.1.1 e.symm, h.2⟩,
        fun h => ⟨⟨fun e => h.2.1 e.symm, h.1⟩, h.2.2⟩⟩

theorem distinct_eq_firsts (rows : List α) : distinct rows = firsts rows := by
  simp [distinct, distinctFrom_eq, firsts]

end Entity

def Kind.SameKey : (k : Kind) → k.Row → k.Row → Prop
  | .catalogs, (a : Database), (b : Database) => a.catalog = b.catalog
  | .schemas, (a : Schema), (b : Schema) => a.catalog = b.catalog ∧ a.schema = b.schema
  | .tables, (a : Table), (b : Table) =>
    a.catalog = b.catalog ∧ a.schema = b.schema ∧ a.name = b.name
  | .columns, (a : Column), (b : Column) =>
    a.catalog = b.catalog ∧ a.schema = b.schema ∧ a.table = b.table ∧ a.name = b.name
  | .indexes, (a : Index), (b : Index) =>
    a.catalog = b.catalog ∧ a.schema = b.schema ∧ a.table = b.table ∧ a.name = b.name
  | .indexColumns, (a : IndexColumn), (b : IndexColumn) =>
    a.catalog = b.catalog ∧ a.schema = b.schema ∧ a.table = b.table ∧
      a.indexName = b.indexName ∧ a.name = b.name
  | .constraints, (a : Constraint), (b : Constraint) =>
    a.catalog = b.catalog ∧ a.schema = b.schema ∧ a.table = b.table ∧ a.name = b.name
  | .constraintColumns, (a : ConstraintColumn), (b : ConstraintColumn) =>
    a.catalog = b.catalog ∧ a.schema = b.schema ∧ a.table = b.table ∧
      a.constraint = b.constraint ∧ a.name = b.name
  | .sequences, (a : Sequence), (b : Sequence) =>
    a.catalog = b.catalog ∧ a.schema = b.schema ∧ a.name = b.name
  | .triggers, (a : Trigger), (b : Trigger) =>
    a.catalog = b.catalog ∧ a.schema = b.schema ∧ a.table = b.table ∧ a.name = b.name
  | .functions, (a : Function), (b : Function) =>
    a.catalog = b.catalog ∧ a.schema = b.schema ∧ a.specificName = b.specificName
  | .functionColumns, (a : FunctionColumn), (b : FunctionColumn) =>
    a.catalog = b.catalog ∧ a.schema = b.schema ∧ a.function = b.function ∧
      a.ordinalPosition = b.ordinalPosition
  | .columnStats, (a : ColumnStat), (b : ColumnStat) =>
    a.catalog = b.catalog ∧ a.schema = b.schema ∧ a.table = b.table ∧ a.name = b.name
  | .privilegeSummaries, (a : PrivilegeSummary), (b : PrivilegeSummary) =>
    a.catalog = b.catalog ∧ a.schema = b.schema ∧ a.name = b.name

/-- Digits tell numbers apart, and a sign is no digit. -/
theorem Json.wholeChars_inj {m n : Int} : wholeChars m = wholeChars n ↔ m = n := by
  have digits {a b : Nat} (same : Nat.toDigits 10 a = Nat.toDigits 10 b) : a = b := by
    have read := congrArg (Nat.ofDigitChars 10 · 0) same
    simpa only [Nat.ofDigitChars_ten_toDigits] using read
  have unsigned {cs : List Char} {a : Nat} (same : '-' :: cs = Nat.toDigits 10 a) : False := by
    have sign : '-' ∈ Nat.toDigits 10 a := same ▸ List.mem_cons_self
    exact absurd (Nat.isDigit_of_mem_toDigits (by decide) (by decide) sign) (by decide)
  refine ⟨fun same => ?_, congrArg wholeChars⟩
  unfold wholeChars at same
  by_cases left : m < 0 <;> by_cases right : n < 0 <;>
    simp only [left, right, if_true, if_false, List.nil_append, List.singleton_append] at same
  · have := digits (List.cons.inj same).2
    omega
  · exact (unsigned same).elim
  · exact (unsigned same.symm).elim
  · have := digits same
    omega

theorem Cell.wholeText_inj {m n : Int} : wholeText m = wholeText n ↔ m = n :=
  String.ofList_inj.trans Json.wholeChars_inj

theorem Kind.sameKey_iff {k : Kind} {a b : k.Row} :
    k.SameKey a b ↔ Entity.key a = Entity.key b := by
  cases k <;> simp [SameKey, Entity.key, Cell.wholeText_inj, Int32.toInt_inj]

instance (k : Kind) (a b : k.Row) : Decidable (k.SameKey a b) :=
  decidable_of_iff _ Kind.sameKey_iff.symm

/-- The rows that share their natural key with no row before them. -/
def Kind.firsts (k : Kind) (rows : List k.Row) : List k.Row :=
  (rows.zipIdx.filter fun entry : k.Row × Nat =>
    decide (∀ row ∈ rows.take entry.2, ¬k.SameKey row entry.1)).map (·.1)

theorem Kind.firsts_eq (k : Kind) (rows : List k.Row) : k.firsts rows = Entity.firsts rows := by
  simp only [firsts, Entity.firsts, sameKey_iff]

/-! ## Queries -/

/-- The rows of a kind that a snapshot has, in its order. -/
inductive Snapshot.Stores (s : Snapshot) : (k : Kind) → List k.Row → Prop where
  | catalogs : Stores s .catalogs s.catalogs
  | schemas : Stores s .schemas s.schemas
  | tables : Stores s .tables s.tables
  | columns : Stores s .columns s.columns
  | indexes : Stores s .indexes s.indexes
  | indexColumns : Stores s .indexColumns s.indexColumns
  | constraints : Stores s .constraints s.constraints
  | constraintColumns : Stores s .constraintColumns s.constraintColumns
  | sequences : Stores s .sequences s.sequences
  | triggers : Stores s .triggers s.triggers
  | functions : Stores s .functions s.functions
  | functionColumns : Stores s .functionColumns s.functionColumns
  | columnStats : Stores s .columnStats s.columnStats
  | privilegeSummaries : Stores s .privilegeSummaries s.privilegeSummaries

theorem Snapshot.stores_iff {s : Snapshot} {k : Kind} {rows : List k.Row} :
    s.Stores k rows ↔ rows = s.rows k := by
  constructor
  · rintro ⟨⟩ <;> rfl
  · rintro rfl
    cases k <;> constructor

/-- What a query for rows of a kind answers: the admitted rows as they are arranged, of those with
one natural key the first. -/
def Snapshot.Answers (s : Snapshot) (k : Kind) (f : Filter) (rows : List k.Row) : Prop :=
  ∃ stored listed, s.Stores k stored ∧
    k.Arranges (stored.filter fun row => f.Admits k row) listed ∧ rows = k.firsts listed

theorem Snapshot.answers_iff {s : Snapshot} {k : Kind} {f : Filter} {rows : List k.Row} :
    s.Answers k f rows ↔ rows = s.select k f := by
  unfold Answers select
  simp only [stores_iff, Filter.filter_admits, Kind.arranges_iff, Kind.firsts_eq,
    Entity.distinct_eq_firsts]
  constructor
  · rintro ⟨_, _, rfl, rfl, rfl⟩
    rfl
  · rintro rfl
    exact ⟨_, _, rfl, rfl, rfl⟩

theorem Snapshot.Answers.unique {s : Snapshot} {k : Kind} {f : Filter} {rows rows' : List k.Row}
    (h : s.Answers k f rows) (h' : s.Answers k f rows') : rows = rows' :=
  (answers_iff.1 h).trans (answers_iff.1 h').symm

def Reader.after {σ : Type} (r : Reader σ) (state : σ) : List (Kind × Filter) → σ
  | [] => state
  | query :: later => r.after (r.ask query.1 query.2 state).2 later

namespace Snapshot

variable (s : Snapshot) (offers declined : Capabilities)

/-- A query counts for its kind and for no other, whether it is declined or not. -/
theorem count_ask (k k' : Kind) (f : Filter) (tally : Tally) :
    Tally.count ((s.reader offers declined).ask k f tally).2 k' =
      Tally.count tally k' + if k = k' then 1 else 0 := by
  show List.count k' (k :: tally) = _
  rw [List.count_cons, Tally.count]
  simp only [beq_iff_eq]

/-- The counts are those of the queries so far. -/
theorem count_after (queries : List (Kind × Filter)) (k : Kind) (tally : Tally) :
    Tally.count ((s.reader offers declined).after tally queries) k =
      Tally.count tally k + queries.countP fun query => query.1 = k := by
  induction queries generalizing tally with
  | nil => rfl
  | cons query later ih =>
    unfold Reader.after
    rw [ih, count_ask, List.countP_cons]
    simp only [decide_eq_true_eq]
    omega

/-- Whatever was asked before: a declined query is not supported, any other has exactly one answer
and gives it, and the query is counted once for its kind; the answer is the same for all counts. -/
theorem ask_after (earlier : List (Kind × Filter)) (k : Kind) (f : Filter) :
    let r := s.reader offers declined
    let tally := r.after [] earlier
    let reply := r.ask k f tally
    (declined.has k = true → reply.1 = .error .notSupported) ∧
      (declined.has k = false →
        ∃ rows, reply.1 = .ok rows ∧ ∀ rows', s.Answers k f rows' ↔ rows' = rows) ∧
      (∀ k', Tally.count tally k' = earlier.countP fun query => query.1 = k') ∧
      (∀ k', Tally.count reply.2 k' = Tally.count tally k' + if k = k' then 1 else 0) ∧
      ∀ tally', (r.ask k f tally').1 = reply.1 := by
  intro r tally reply
  refine ⟨fun refused => ?_, fun served => ?_, fun k' => ?_, fun k' => ?_, fun _ => rfl⟩
  · show s.answer declined k f = _
    rw [answer, if_pos refused]
  · refine ⟨s.select k f, ?_, fun rows' => answers_iff⟩
    show s.answer declined k f = _
    rw [answer, if_neg (by simp [served])]
  · have counted := s.count_after offers declined earlier k' []
    rw [counted]
    exact Nat.zero_add _
  · exact s.count_ask offers declined k k' f tally

/-- Columns of two tables, out of order and one of them twice, asked for after tables: once served
and once declined. -/
theorem ask_after_columns :
    let first : Column := { table := "t", name := "a", ordinalPosition := 1 }
    let second : Column := { table := "t", name := "b", ordinalPosition := 2 }
    let again : Column := { second with ordinalPosition := 3 }
    let s : Snapshot := { columns := [again, { first with table := "u" }, second, first] }
    let f : Filter := { parent := "t" }
    let r := s.reader .all .none
    let refusing := s.reader .all (.ofList [.columns])
    (r.ask .columns f (r.after [] [(.tables, {})])).1 = .ok [first, second] ∧
      (refusing.ask .columns f (refusing.after [] [(.tables, {})])).1 = .error .notSupported := by
  intro first second again s f r refusing
  obtain ⟨rows, answer, only⟩ :=
    (ask_after s .all .none [(.tables, {})] .columns f).2.1 rfl
  have arranged : StableBy (fun row : Column => row.ordinalPosition.toInt) [again, second, first]
      [first, second, again] :=
    .of_pairwise_lt (List.reverse_perm [again, second, first])
      (by simp [first, second, again])
  have admitted : (s.columns.filter fun row => f.Admits .columns row) = [again, second, first] := by
    rw [List.filter_cons_of_pos (by decide), List.filter_cons_of_neg (by decide),
      List.filter_cons_of_pos (by decide), List.filter_cons_of_pos (by decide), List.filter_nil]
  have listed : s.Answers .columns f [first, second] :=
    ⟨s.columns, [first, second, again], .columns, admitted ▸ arranged, rfl⟩
  refine ⟨?_, (ask_after s .all (.ofList [.columns]) [(.tables, {})] .columns f).1 rfl⟩
  rw [answer, (only _).1 listed]

end Snapshot

end CatalogReport
