import Mathlib.Data.List.Forall2
import CatalogReport.Proofs.CursorRuns

/-!
# Writing over the rows of a pass

A pass that goes from row to row and writes over every row it reaches (`writeThrough`). It leaves
the rows before the cursor and the rejected ones as they are, and what it wrote is what a pass from
the first row gives afterwards, as long as the new rows are accepted like the old ones
(`rows_writeThrough`, `remaining_reset_writeThrough`).
-/

namespace CatalogReport.ResultSet

variable {α : Type}

def ahead (s : ResultSet α) : Nat :=
  s.rows.length - s.position

/-- Goes from row to row, writes each of these rows over the one that is reached, and goes on once
more. -/
def writeThrough (s : ResultSet α) : List α → ResultSet α
  | [] => s.next.2
  | row :: rows => (s.next.2.overwrite row).2.writeThrough rows

/-! ## One row -/

theorem closed_of_next {s : ResultSet α} (moved : s.next.1 = true) : s.closed = false := by
  cases closed : s.closed with
  | false => rfl
  | true => simp [next, closed] at moved

/-- A set that goes to a row and writes over it has changed this row only, and stands right after
it. -/
theorem overwrite_next {s : ResultSet α} (moved : s.next.1 = true) (new : α) :
    ∃ skipped row rest passed, s.rows.drop s.position = skipped ++ row :: rest ∧
      passed = s.rows.take s.position ++ skipped ∧ skipped.filter s.accepts = [] ∧
      s.accepts row = true ∧ s.next.2.get? = some row ∧
      (s.next.2.overwrite new).2 =
        { s with
          rows := (passed ++ [new]) ++ rest
          position := (passed ++ [new]).length
          current := some passed.length } := by
  unfold next at moved ⊢
  split at moved
  · cases moved
  · rename_i isOpen
    rw [if_neg isOpen]
    split at moved
    · rename_i m search
      obtain ⟨skipped, row, rest, left, index, none_accepted, found⟩ := findFrom_parts search
      generalize before : s.rows.take s.position ++ skipped = passed
      have whole : s.rows = passed ++ row :: rest := by
        rw [← before, List.append_assoc, ← left, List.take_append_drop]
      have place : m = passed.length := by
        have inside := congrArg List.length left
        rw [List.length_drop, List.length_append, List.length_cons] at inside
        rw [← before, List.length_append, List.length_take, index]
        omega
      subst place
      have within : passed.length < s.rows.length := by
        simp [whole]
      have written : s.rows.set passed.length new = (passed ++ [new]) ++ rest := by
        simp [whole]
      refine ⟨skipped, row, rest, passed, left, before.symm, none_accepted, found, ?_, ?_⟩
      · show s.rows[passed.length]? = some row
        simp [whole]
      · simp only [overwrite, if_pos within, written, List.length_append, List.length_singleton]
    · cases moved

/-- A set that reaches a row goes on, once that row is written over, with the rows that are left
after it. -/
theorem remaining_overwrite_next {s : ResultSet α} (moved : s.next.1 = true) (new : α) :
    ∃ row, s.next.2.get? = some row ∧
      s.remaining = row :: (s.next.2.overwrite new).2.remaining := by
  obtain ⟨skipped, row, rest, passed, rows, -, none_accepted, found, reached, after⟩ :=
    overwrite_next moved new
  have isOpen := closed_of_next moved
  have front : s.remaining = row :: rest.filter s.accepts := by
    rw [remaining, isOpen, rows, List.filter_append, none_accepted, List.filter_cons_of_pos found]
    rfl
  have behind : (s.next.2.overwrite new).2.remaining = rest.filter s.accepts := by
    rw [after]
    simp only [remaining, isOpen, List.drop_left]
    rfl
  exact ⟨row, reached, by rw [front, behind]⟩

theorem ahead_next {s : ResultSet α} (moved : s.next.1 = true) : s.next.2.ahead < s.ahead := by
  unfold next at moved ⊢
  split at moved
  · cases moved
  · rename_i isOpen
    rw [if_neg isOpen]
    split at moved
    · rename_i m search
      obtain ⟨later, row, there, -⟩ := findFrom_eq_some search
      rw [List.getElem?_drop] at there
      obtain ⟨inside, -⟩ := List.getElem?_eq_some_iff.1 there
      simp only [ahead]
      omega
    · cases moved

theorem ahead_overwrite (s : ResultSet α) (new : α) : (s.overwrite new).2.ahead = s.ahead := by
  unfold overwrite
  split
  · split
    · simp only [ahead, List.length_set]
    · rfl
  · rfl

/-! ## A whole pass -/

theorem writeThrough_frame (s : ResultSet α) (new : List α) :
    ∃ rows position current,
      s.writeThrough new = { s with rows := rows, position := position, current := current } := by
  induction new generalizing s with
  | nil =>
    obtain ⟨position, current, moved⟩ := s.next_frame
    exact ⟨_, position, current, moved⟩
  | cons row new ih =>
    obtain ⟨position, current, moved⟩ := s.next_frame
    obtain ⟨rows, written⟩ := s.next.2.overwrite_frame row
    obtain ⟨rows', position', current', rest⟩ := ih (s.next.2.overwrite row).2
    refine ⟨rows', position', current', ?_⟩
    rw [writeThrough, rest, written, moved]

theorem accepts_writeThrough (s : ResultSet α) (new : List α) :
    (s.writeThrough new).accepts = s.accepts := by
  obtain ⟨rows, position, current, frame⟩ := s.writeThrough_frame new
  rw [frame]
  rfl

/-- The rows from the cursor on change place by place: those that are left become the new ones, and
the rejected ones stay. -/
theorem rows_writeThrough {R : α → α → Prop} {s : ResultSet α} {new : List α}
    (isOpen : s.closed = false) (stays : ∀ a, s.accepts a = false → R a a)
    (each : List.Forall₂ R s.remaining new) (accepted : ∀ a ∈ new, s.accepts a = true) :
    ∃ rows, (s.writeThrough new).rows = s.rows.take s.position ++ rows ∧
      List.Forall₂ R (s.rows.drop s.position) rows ∧ rows.filter s.accepts = new := by
  have unchanged {rows : List α} (none_accepted : rows.filter s.accepts = []) :
      List.Forall₂ R rows rows :=
    List.forall₂_same.2 fun a listed =>
      stays a (Bool.eq_false_iff.2 (List.filter_eq_nil_iff.1 none_accepted a listed))
  induction new generalizing s with
  | nil =>
    have none_left : (s.rows.drop s.position).filter s.accepts = [] := by
      simpa [remaining, isOpen] using List.forall₂_nil_right_iff.1 each
    obtain ⟨position, current, moved⟩ := s.next_frame
    refine ⟨s.rows.drop s.position, ?_, unchanged none_left, none_left⟩
    rw [writeThrough, moved, List.take_append_drop]
  | cons a new ih =>
    obtain ⟨old, left, related, later, remains⟩ := List.forall₂_cons_right_iff.1 each
    have moved : s.next.1 = true := by
      rcases s.next_cases with ⟨-, none_left⟩ | ⟨moved, -⟩
      · exact absurd (none_left.symm.trans remains) (by simp)
      · exact moved
    obtain ⟨row', reached', front⟩ := remaining_overwrite_next moved a
    obtain ⟨skipped, row, rest, passed, rows, before, none_accepted, -, reached, after⟩ :=
      overwrite_next moved a
    obtain rfl : row' = row := Option.some.inj (reached'.symm.trans reached)
    obtain ⟨rfl, same_left⟩ := List.cons.inj (front.symm.trans remains)
    obtain ⟨acceptedFirst, acceptedLater⟩ := List.forall_mem_cons.1 accepted
    -- What is left after the row is left by the pass over the rest of the rows.
    generalize written : (s.next.2.overwrite a).2 = t at after same_left
    have same : t.accepts = s.accepts := by
      rw [after]
      rfl
    have passedRows : t.rows.take t.position = passed ++ [a] := by
      rw [after]
      exact List.take_left
    have restRows : t.rows.drop t.position = rest := by
      rw [after]
      exact List.drop_left
    obtain ⟨rows', shape, related', kept⟩ := ih (s := t) (by rw [after]; exact isOpen)
      (by rw [same]; exact stays) (by rw [same_left]; exact later)
      (by rw [same]; exact acceptedLater) (by rw [same]; exact unchanged)
    rw [same] at kept
    rw [restRows] at related'
    refine ⟨skipped ++ a :: rows', ?_, ?_, ?_⟩
    · rw [writeThrough, written, shape, passedRows, before]
      simp only [List.append_assoc, List.singleton_append]
    · rw [rows]
      exact List.rel_append (unchanged none_accepted) (.cons related related')
    · rw [List.filter_append, none_accepted, List.nil_append, List.filter_cons_of_pos acceptedFirst,
        kept]

theorem remaining_reset_writeThrough {R : α → α → Prop} {s : ResultSet α} {new : List α}
    (isOpen : s.closed = false) (first : s.position = 0)
    (stays : ∀ a, s.accepts a = false → R a a) (each : List.Forall₂ R s.remaining new)
    (accepted : ∀ a ∈ new, s.accepts a = true) :
    List.Forall₂ R s.rows (s.writeThrough new).rows ∧
      (s.writeThrough new).reset.remaining = new := by
  obtain ⟨rows, shape, related, kept⟩ := rows_writeThrough isOpen stays each accepted
  rw [first, List.take_zero, List.nil_append] at shape
  rw [first, List.drop_zero] at related
  refine ⟨shape ▸ related, ?_⟩
  obtain ⟨rows', position, current, frame⟩ := s.writeThrough_frame new
  have same : (s.writeThrough new).reset.accepts = s.accepts := s.accepts_writeThrough new
  have stillOpen : (s.writeThrough new).reset.closed = false := by
    rw [frame]
    exact isOpen
  rw [remaining, stillOpen, same]
  show (s.writeThrough new).rows.filter s.accepts = new
  rw [shape, kept]

end CatalogReport.ResultSet
