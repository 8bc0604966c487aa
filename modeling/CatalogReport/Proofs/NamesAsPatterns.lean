import CatalogReport.Proofs.SearchPatterns
import CatalogReport.Proofs.SystemRows

/-!
# Names as patterns

Names that were read from a catalog are asked for as LIKE patterns. A name finds itself
(`glob_self`), but also what its percent signs and underscores stand for, and an empty name finds
everything. A name without these signs that is not empty finds itself only
(`Literal.like_accepts_iff`). Rows can be taken out before an answer is made or after, as long as
their keys decide which are (`filter_select`).
-/

namespace CatalogReport

/-! ## Literal names -/

/-- The name is not empty and none of its characters stands for others. -/
def Literal (name : String) : Prop :=
  name ≠ "" ∧ '%' ∉ name.toList ∧ '_' ∉ name.toList

instance (name : String) : Decidable (Literal name) :=
  inferInstanceAs (Decidable (_ ∧ _ ∧ _))

/-- Every character of a LIKE pattern stands for itself, among others. -/
theorem stands_self (c : Char) : Stands likeWild c [c] := by
  unfold Stands
  split
  · trivial
  · split
    · exact ⟨c, rfl⟩
    · rfl

theorem glob_self (name : String) : Glob likeWild name name := by
  refine ⟨name.toList.map fun c => [c], ?_, ?_⟩
  · exact List.forall₂_map_right_iff.2 (List.forall₂_same.2 fun c _ => stands_self c)
  · induction name.toList with
    | nil => rfl
    | cons c cs ih => exact congrArg (List.cons c) ih

theorem flatten_of_stands {cs : List Char} {runs : List (List Char)} (percent : '%' ∉ cs)
    (underscore : '_' ∉ cs) (each : List.Forall₂ (Stands likeWild) cs runs) :
    runs.flatten = cs := by
  induction each with
  | nil => rfl
  | @cons c run cs runs stands _ ih =>
    rw [List.mem_cons, not_or] at percent underscore
    have plain : c ∉ likeWild := by simpa [likeWild] using Ne.symm percent.1
    have alone : run = [c] := by simpa [Stands, plain, Ne.symm underscore.1] using stands
    rw [List.flatten_cons, ih percent.2 underscore.2, alone, List.singleton_append]

theorem Literal.glob_iff {name text : String} (h : Literal name) :
    Glob likeWild name text ↔ text = name := by
  constructor
  · rintro ⟨runs, each, cut⟩
    rw [flatten_of_stands h.2.1 h.2.2 each] at cut
    exact String.toList_inj.1 cut
  · rintro rfl
    exact glob_self text

theorem Filter.like_accepts_empty (text : String) : Text.Like.accepts "" text = true :=
  rfl

theorem Literal.like_accepts_iff {name text : String} (h : Literal name) :
    Text.Like.accepts name text = true ↔ text = name := by
  rw [Filter.like_accepts_iff, ← h.glob_iff]
  exact ⟨fun stands => stands h.1, fun stands _ => stands⟩

/-! ## Rows taken out of an answer -/

theorem StableBy.filter {α : Type} {position : α → Int} {rows listed : List α}
    (h : StableBy position rows listed) (keeps : α → Bool) :
    StableBy position (rows.filter keeps) (listed.filter keeps) where
  perm := h.perm.filter keeps
  ascending := h.ascending.filter keeps
  stable p := by
    rw [List.filter_comm, h.stable p, List.filter_comm]

/-- Rows can be taken out before or after the others are arranged. -/
theorem Kind.filter_inPosition (k : Kind) (keeps : k.Row → Bool) (rows : List k.Row) :
    (k.inPosition rows).filter keeps = k.inPosition (rows.filter keeps) := by
  refine Kind.arranges_iff.1 ?_
  have arranged : k.Arranges rows (k.inPosition rows) := Kind.arranges_iff.2 rfl
  cases k
  case columns | indexColumns | constraintColumns | functionColumns =>
    exact StableBy.filter arranged keeps
  all_goals exact congrArg (List.filter keeps) arranged

theorem Kind.mem_inPosition {k : Kind} {row : k.Row} {rows : List k.Row} :
    row ∈ k.inPosition rows ↔ row ∈ rows := by
  unfold Kind.inPosition
  split
  · exact List.mem_mergeSort
  · exact Iff.rfl

namespace Entity

variable {α : Type} [Entity α]

theorem distinctFrom_eq_self {seen : List (List String)} {rows : List α}
    (fresh : ∀ row ∈ rows, key row ∉ seen) (own : rows.Pairwise fun a b => key a ≠ key b) :
    distinctFrom seen rows = rows := by
  induction rows generalizing seen with
  | nil => rfl
  | cons row rows ih =>
    obtain ⟨first, later⟩ := List.forall_mem_cons.1 fresh
    obtain ⟨apart, rest⟩ := List.pairwise_cons.1 own
    rw [distinctFrom_cons_of_not_mem first, ih (fun other listed => ?_) rest]
    rw [List.mem_cons, not_or]
    exact ⟨Ne.symm (apart other listed), later other listed⟩

theorem distinct_eq_self {rows : List α} (own : rows.Pairwise fun a b => key a ≠ key b) :
    distinct rows = rows :=
  distinctFrom_eq_self (fun _ _ => List.not_mem_nil) own

end Entity

namespace Snapshot

variable (s : Snapshot) {k : Kind} {keeps : k.Row → Bool}

theorem filter_select (decides : ∀ a b : k.Row, Entity.key a = Entity.key b → keeps a = keeps b)
    (f : Filter) :
    (s.select k f).filter keeps =
      Entity.distinct
        (k.inPosition ((s.rows k).filter fun row => f.accepts k row && keeps row)) := by
  unfold select Entity.distinct
  rw [Entity.filter_distinctFrom decides, Kind.filter_inPosition, List.filter_filter]
  simp only [Bool.and_comm]

/-- When the stored rows have keys of their own, an answer is made of all that the filter
accepts. -/
theorem select_eq_filter (unplaced : k.position = none)
    (own : (s.rows k).Pairwise fun a b => Entity.key a ≠ Entity.key b) (f : Filter) :
    s.select k f = (s.rows k).filter (f.accepts k) := by
  unfold select Kind.inPosition
  rw [unplaced]
  exact Entity.distinct_eq_self (own.filter _)

theorem mem_of_mem_select {f : Filter} {row : k.Row} (h : row ∈ s.select k f) :
    row ∈ s.rows k ∧ f.accepts k row = true := by
  have listed := (Entity.mem_of_mem_distinctFrom h).1
  exact List.mem_filter.1 (Kind.mem_inPosition.1 listed)

/-- All rows of an answer are of some sort just when all stored rows that the filter accepts are. -/
theorem forall_mem_select_iff
    (decides : ∀ a b : k.Row, Entity.key a = Entity.key b → keeps a = keeps b) (f : Filter) :
    (∀ row ∈ s.select k f, keeps row = true) ↔
      ∀ row ∈ s.rows k, f.accepts k row = true → keeps row = true := by
  constructor
  · intro all row stored accepted
    have listed := Kind.mem_inPosition.2 (List.mem_filter.2 ⟨stored, accepted⟩)
    obtain ⟨kept, answered, key⟩ := Entity.exists_mem_distinctFrom listed List.not_mem_nil
    rw [← decides kept row key]
    exact all kept answered
  · intro all row listed
    obtain ⟨stored, accepted⟩ := s.mem_of_mem_select listed
    exact all row stored accepted

end Snapshot

end CatalogReport
