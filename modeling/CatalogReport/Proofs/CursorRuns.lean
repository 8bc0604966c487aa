import CatalogReport.Proofs.Selection
import CatalogReport.Report.ResultSet

/-!
# Runs of operations on a result set

A set is opened with rows, perhaps with a hook, and any operations follow. `Sound` relates the rows,
the cursor and whether the set is closed; every operation keeps it. `Moves` says where an operation
leaves the cursor. `Drains` is the loop that goes to the next row until there is none: what it gives
is what is left of the set (`drains_iff`), which is all that the facts on a run are made of.
-/

namespace CatalogReport.ResultSet

variable {α : Type}

/-! ## The next row -/

theorem findFrom_eq_findIdx? (accepted : α → Bool) (n : Nat) (rows : List α) :
    findFrom accepted n rows = (rows.findIdx? accepted).map (n + ·) := by
  induction rows generalizing n with
  | nil => rfl
  | cons row rest ih =>
    rw [findFrom, List.findIdx?_cons, ih]
    split
    · rfl
    · cases rest.findIdx? accepted with
      | none => rfl
      | some offset =>
        rw [Option.map_some, Option.map_some, Option.map_some]
        congr 1
        omega

theorem findFrom_eq_none {accepted : α → Bool} {n : Nat} {rows : List α}
    (h : findFrom accepted n rows = none) : rows.filter accepted = [] := by
  rw [findFrom_eq_findIdx?, Option.map_eq_none_iff, List.findIdx?_eq_none_iff] at h
  exact List.filter_eq_nil_iff.2 fun row among => ne_true_of_eq_false (h row among)

/-- The row that is found comes after rejected ones. -/
theorem findFrom_parts {accepted : α → Bool} {n m : Nat} {rows : List α}
    (h : findFrom accepted n rows = some m) :
    ∃ skipped row rest, rows = skipped ++ row :: rest ∧ m = n + skipped.length ∧
      skipped.filter accepted = [] ∧ accepted row = true := by
  induction rows generalizing n with
  | nil => cases h
  | cons first rows ih =>
    unfold findFrom at h
    split at h
    · rename_i found
      cases h
      exact ⟨[], first, rows, rfl, rfl, rfl, found⟩
    · rename_i rejected
      obtain ⟨skipped, row, rest, rfl, rfl, none_accepted, found⟩ := ih h
      refine ⟨first :: skipped, row, rest, rfl, ?_, ?_, found⟩
      · rw [List.length_cons]
        omega
      · rw [List.filter_cons_of_neg rejected]
        exact none_accepted

theorem findFrom_eq_some {accepted : α → Bool} {n m : Nat} {rows : List α}
    (h : findFrom accepted n rows = some m) :
    n ≤ m ∧ ∃ row, rows[m - n]? = some row ∧
      rows.filter accepted = row :: (rows.drop (m - n + 1)).filter accepted := by
  obtain ⟨skipped, row, rest, rfl, rfl, none_accepted, found⟩ := findFrom_parts h
  have behind : (skipped ++ row :: rest).drop (skipped.length + 1) = rest := by
    rw [List.append_cons]
    exact List.drop_left' (by simp)
  rw [Nat.add_sub_cancel_left, behind]
  refine ⟨Nat.le_add_right .., row, by simp, ?_⟩
  rw [List.filter_append, none_accepted, List.nil_append, List.filter_cons_of_pos found]

/-- A set goes to the first row from its cursor on that is accepted, and without one to its end. -/
inductive Advances (accepted : α → Bool) (s : ResultSet α) : Bool → ResultSet α → Prop where
  | closed (h : s.closed = true) : Advances accepted s false s
  | ended {moved : ResultSet α} (h : s.closed = false)
      (rejected : ∀ m row, s.position ≤ m → s.rows[m]? = some row → accepted row = false)
      (after : moved.position = max s.position s.rows.length) (at_none : moved.current = none) :
      Advances accepted s false moved
  | row {moved : ResultSet α} {n : Nat} {found : α} (h : s.closed = false)
      (there : s.rows[n]? = some found) (ahead : s.position ≤ n) (accepts : accepted found = true)
      (rejected : ∀ m row, s.position ≤ m → m < n → s.rows[m]? = some row → accepted row = false)
      (after : moved.position = n + 1) (at_row : moved.current = some n) :
      Advances accepted s true moved

theorem advances_next (s : ResultSet α) : Advances s.accepts s s.next.1 s.next.2 := by
  cases closed : s.closed with
  | true =>
    rw [next, if_pos closed]
    exact .closed closed
  | false =>
    rw [next, if_neg (by simp [closed]), findFrom_eq_findIdx?]
    cases search : (s.rows.drop s.position).findIdx? s.accepts with
    | none =>
      refine .ended closed (fun m row ahead there => ?_) rfl rfl
      have offset : s.position + (m - s.position) = m := by omega
      rw [← offset, ← List.getElem?_drop] at there
      exact List.findIdx?_eq_none_iff.1 search row (List.mem_of_getElem? there)
    | some offset =>
      obtain ⟨inside, accepts, earlier⟩ := List.findIdx?_eq_some_iff_getElem.1 search
      have there : s.rows[s.position + offset]? = some (s.rows.drop s.position)[offset] := by
        rw [← List.getElem?_drop, List.getElem?_eq_getElem inside]
      refine .row closed there (Nat.le_add_right ..) accepts (fun m row ahead before there => ?_)
        rfl rfl
      have place : s.position + (m - s.position) = m := by omega
      rw [← place, ← List.getElem?_drop] at there
      obtain ⟨_, rfl⟩ := List.getElem?_eq_some_iff.1 there
      exact eq_false_of_ne_true (earlier (m - s.position) (by omega))

/-- A set is at its end when nothing is left of it, and otherwise goes to the first row that is
left. -/
theorem next_cases (s : ResultSet α) :
    (s.next.1 = false ∧ s.remaining = []) ∨
      (s.next.1 = true ∧ ∃ row, s.next.2.get? = some row ∧
        s.remaining = row :: s.next.2.remaining) := by
  cases closed : s.closed with
  | true => exact .inl ⟨by simp [next, closed], by simp [remaining, closed]⟩
  | false =>
    cases search : findFrom s.accepts s.position (s.rows.drop s.position) with
    | none =>
      refine .inl ⟨by simp [next, closed, search], ?_⟩
      simpa [remaining, closed] using findFrom_eq_none search
    | some m =>
      obtain ⟨later, row, there, left⟩ := findFrom_eq_some search
      have index : s.position + (m - s.position) = m := by omega
      have after : s.next.2 = { s with position := m + 1, current := some m } := by
        simp [next, closed, search]
      rw [List.getElem?_drop, index] at there
      rw [List.drop_drop, ← Nat.add_assoc, index] at left
      refine .inr ⟨by simp [next, closed, search], row, ?_, ?_⟩
      · rw [after]
        exact there
      · have same : s.next.2.accepts = s.accepts := by
          rw [after]
          rfl
        rw [remaining, remaining, same, after]
        simpa [closed] using left

/-! ## Draining -/

/-- The rows that a set is at, one after the other, as it goes to the next row until there is
none. -/
inductive Drains : ResultSet α → List α → Prop where
  | stop {s : ResultSet α} (h : s.next.1 = false) : Drains s []
  | step {s : ResultSet α} {row : α} {rows : List α} (h : s.next.1 = true)
      (at_row : s.next.2.get? = some row) (rest : Drains s.next.2 rows) : Drains s (row :: rows)

theorem drains_remaining (s : ResultSet α) : s.Drains s.remaining := by
  generalize left : s.remaining = rows
  induction rows generalizing s with
  | nil =>
    rcases s.next_cases with ⟨ended, -⟩ | ⟨-, row, -, more⟩
    · exact .stop ended
    · exact absurd (left.symm.trans more) (by simp)
  | cons row rows ih =>
    rcases s.next_cases with ⟨-, none_left⟩ | ⟨moved, row', at_row, more⟩
    · exact absurd (left.symm.trans none_left) (by simp)
    · obtain ⟨rfl, rest⟩ := List.cons.inj (left.symm.trans more)
      exact .step moved at_row (ih _ rest.symm)

theorem Drains.eq_remaining {s : ResultSet α} {rows : List α} (h : s.Drains rows) :
    rows = s.remaining := by
  induction h with
  | @stop s ended =>
    rcases s.next_cases with ⟨-, none_left⟩ | ⟨moved, -⟩
    · exact none_left.symm
    · exact absurd (ended.symm.trans moved) (by simp)
  | @step s row rows moved at_row _ ih =>
    rcases s.next_cases with ⟨ended, -⟩ | ⟨-, row', at_row', more⟩
    · exact absurd (ended.symm.trans moved) (by simp)
    · have same : row = row' := Option.some.inj (at_row.symm.trans at_row')
      rw [more, ih, same]

theorem drains_iff {s : ResultSet α} {rows : List α} : s.Drains rows ↔ rows = s.remaining :=
  ⟨Drains.eq_remaining, fun h => h ▸ s.drains_remaining⟩

/-! ## What operations leave alone -/

theorem next_frame (s : ResultSet α) :
    ∃ position current, s.next.2 = { s with position := position, current := current } := by
  unfold next
  split
  · exact ⟨_, _, rfl⟩
  · split
    · exact ⟨_, _, rfl⟩
    · exact ⟨_, _, rfl⟩

theorem overwrite_frame (s : ResultSet α) (row : α) :
    ∃ rows, (s.overwrite row).2 = { s with rows := rows } := by
  unfold overwrite
  split
  · split
    · exact ⟨_, rfl⟩
    · exact ⟨_, rfl⟩
  · exact ⟨_, rfl⟩

theorem closed_close (s : ResultSet α) : s.close.closed = true := by
  unfold close
  split
  · assumption
  · rfl

theorem predicate_close (s : ResultSet α) : s.close.predicate = s.predicate := by
  unfold close
  split <;> rfl

theorem position_close (s : ResultSet α) : s.close.position = s.position := by
  unfold close
  split <;> rfl

/-! ## Sound sets -/

/-- The cursor stands right after the current row, which is one of the rows; a closed set has
neither rows nor a current row; the hook waits until the set is closed and has then run once. -/
structure Sound (hooked : Bool) (s : ResultSet α) : Prop where
  current : ∀ n, s.current = some n → n < s.rows.length ∧ s.position = n + 1
  closed : s.closed = true → s.rows = [] ∧ s.current = none
  hook : s.hook = (hooked && !s.closed)
  hooksRun : s.hooksRun = if s.closed then hooked.toNat else 0

namespace Sound

variable {hooked : Bool} {s : ResultSet α}

theorem next (h : s.Sound hooked) : s.next.2.Sound hooked := by
  unfold ResultSet.next
  split
  · exact h
  · rename_i isOpen
    split
    · rename_i m search
      obtain ⟨later, row, there, -⟩ := findFrom_eq_some search
      rw [List.getElem?_drop] at there
      obtain ⟨inside, -⟩ := List.getElem?_eq_some_iff.1 there
      refine ⟨fun n at_row => ?_, fun closed => absurd closed isOpen, h.hook, h.hooksRun⟩
      cases at_row
      have index : s.position + (m - s.position) = m := by omega
      exact ⟨index ▸ inside, rfl⟩
    · exact ⟨nofun, fun closed => absurd closed isOpen, h.hook, h.hooksRun⟩

theorem overwrite (h : s.Sound hooked) (row : α) : (s.overwrite row).2.Sound hooked := by
  unfold ResultSet.overwrite
  split
  · rename_i n at_row
    split
    · refine ⟨fun m at_row' => ?_, fun closed => ?_, h.hook, h.hooksRun⟩
      · rw [List.length_set]
        exact h.current m at_row'
      · exact absurd (at_row.symm.trans (h.closed closed).2) (by simp)
    · exact h
  · exact h

theorem reset (h : s.Sound hooked) : s.reset.Sound hooked :=
  ⟨nofun, fun closed => ⟨(h.closed closed).1, rfl⟩, h.hook, h.hooksRun⟩

theorem close (h : s.Sound hooked) : s.close.Sound hooked := by
  unfold ResultSet.close
  split
  · exact h
  · rename_i isOpen
    have waiting : s.hook = hooked := by rw [h.hook]; simp [isOpen]
    have notYet : s.hooksRun = 0 := by rw [h.hooksRun, if_neg isOpen]
    refine ⟨nofun, fun _ => ⟨rfl, rfl⟩, by simp, ?_⟩
    rw [waiting, notYet]
    cases hooked <;> rfl

/-- Whether the set is closed or not, the rows that are left are rows from the cursor on. -/
theorem remaining_eq (h : s.Sound hooked) :
    s.remaining = (s.rows.drop s.position).filter s.accepts := by
  unfold remaining
  split
  · rename_i closed
    rw [(h.closed closed).1]
    simp
  · rfl

theorem get?_eq_none_iff (h : s.Sound hooked) : s.get? = none ↔ s.current = none := by
  unfold get?
  cases at_row : s.current with
  | none => simp
  | some n => simp [(h.current n at_row).1]

theorem get?_of_closed (h : s.Sound hooked) (closed : s.closed = true) : s.get? = none :=
  h.get?_eq_none_iff.2 (h.closed closed).2

theorem get?_next (h : s.Sound hooked) (ended : s.next.1 = false) : s.next.2.get? = none := by
  rw [h.next.get?_eq_none_iff]
  cases closed : s.closed with
  | true =>
    rw [ResultSet.next, if_pos closed]
    exact (h.closed closed).2
  | false =>
    rw [ResultSet.next, if_neg (by simp [closed])] at ended ⊢
    cases search : findFrom s.accepts s.position (s.rows.drop s.position) with
    | none => rfl
    | some n => simp [search] at ended

end Sound

/-! ## Operations -/

inductive Operation (α : Type) where
  | next
  | get
  | overwrite (row : α)
  | length
  | isEmpty
  | setPredicate (accepted : α → Bool)
  | reset
  | setHeaders (headers : List String)
  | setProjection (cells : α → List Cell)
  | nextRow
  | close

def Operation.installs : Operation α → Option (α → Bool)
  | .setPredicate accepted => some accepted
  | _ => none

/-- The predicate that is installed last; without one all rows are accepted. -/
def lastInstalled (operations : List (Operation α)) : α → Bool :=
  (operations.filterMap Operation.installs).getLast?.getD fun _ => true

def Reaches (s : ResultSet α) : Operation α → Prop
  | .next => s.next.1 = true
  | .nextRow => s.next.1 = true
  | _ => False

def Leaves (s : ResultSet α) : Operation α → Prop
  | .next => s.next.1 = false
  | .nextRow => s.next.1 = false
  | .reset => True
  | .close => True
  | _ => False

section

variable [Entity α]

/-- A set of rows before any operation, with a hook or without. -/
def opened (rows : List α) (hooked : Bool) : ResultSet α :=
  if hooked then (ofRows rows).withHook else ofRows rows

def apply (s : ResultSet α) : Operation α → ResultSet α
  | .next => s.next.2
  | .get => s
  | .overwrite row => (s.overwrite row).2
  | .length => s
  | .isEmpty => s
  | .setPredicate accepted => s.setPredicate accepted
  | .reset => s.reset
  | .setHeaders headers => s.setHeaders headers
  | .setProjection cells => s.setProjection cells
  | .nextRow => s.nextRow.2
  | .close => s.close

def after (s : ResultSet α) (operations : List (Operation α)) : ResultSet α :=
  operations.foldl apply s

/-- Where an operation leaves the cursor: only going to the next row, a reset and closing move
it. -/
def Moves (accepted : α → Bool) (s : ResultSet α) (operation : Operation α) : Prop :=
  let moved := s.apply operation
  match operation with
  | .next => s.Advances accepted s.next.1 moved
  | .nextRow => s.Advances accepted s.nextRow.1.isSome moved
  | .reset => moved.position = 0 ∧ moved.current = none
  | .close => moved.position = s.position ∧ moved.current = none
  | .get | .overwrite _ | .length | .isEmpty | .setPredicate _ | .setHeaders _ | .setProjection _ =>
    moved.position = s.position ∧ moved.current = s.current

def Idle (s : ResultSet α) : List (Operation α) → Prop
  | [] => True
  | operation :: operations => ¬s.Reaches operation ∧ (s.apply operation).Idle operations

/-! ## One operation -/

theorem sound_opened (rows : List α) (hooked : Bool) : (opened rows hooked).Sound hooked := by
  cases hooked <;> constructor <;> simp [opened, ofRows, withHook]

theorem nextRow_snd (s : ResultSet α) : s.nextRow.2 = s.next.2 := by
  unfold nextRow
  split <;> rename_i moved <;> rw [moved]

theorem isSome_nextRow (s : ResultSet α) : s.nextRow.1.isSome = s.next.1 := by
  rcases s.next_cases with ⟨ended, -⟩ | ⟨moved, row, at_row, -⟩
  · rw [nextRow, show s.next = (false, s.next.2) from Prod.ext ended rfl]
    rfl
  · rw [nextRow, show s.next = (true, s.next.2) from Prod.ext moved rfl]
    simp [at_row]

theorem Sound.apply {hooked : Bool} {s : ResultSet α} (h : s.Sound hooked)
    (operation : Operation α) : (s.apply operation).Sound hooked := by
  cases operation with
  | next => exact h.next
  | nextRow =>
    rw [ResultSet.apply, nextRow_snd]
    exact h.next
  | overwrite row => exact h.overwrite row
  | reset => exact h.reset
  | close => exact h.close
  | get | length | isEmpty => exact h
  | setPredicate | setHeaders | setProjection => exact ⟨h.current, h.closed, h.hook, h.hooksRun⟩

theorem closed_apply (s : ResultSet α) (operation : Operation α) :
    (s.apply operation).closed = true ↔ s.closed = true ∨ operation = .close := by
  cases operation with
  | next =>
    obtain ⟨position, current, moved⟩ := s.next_frame
    simp [apply, moved]
  | nextRow =>
    obtain ⟨position, current, moved⟩ := s.next_frame
    simp [apply, nextRow_snd, moved]
  | overwrite row =>
    obtain ⟨rows, written⟩ := s.overwrite_frame row
    simp [apply, written]
  | close => simp [apply, closed_close]
  | get | length | isEmpty | setPredicate | reset | setHeaders | setProjection =>
    simp [apply, setPredicate, reset, setHeaders, setProjection]

theorem predicate_apply (s : ResultSet α) (operation : Operation α) :
    (s.apply operation).predicate = operation.installs.or s.predicate := by
  cases operation with
  | next =>
    obtain ⟨position, current, moved⟩ := s.next_frame
    simp [apply, moved, Operation.installs]
  | nextRow =>
    obtain ⟨position, current, moved⟩ := s.next_frame
    simp [apply, nextRow_snd, moved, Operation.installs]
  | overwrite row =>
    obtain ⟨rows, written⟩ := s.overwrite_frame row
    simp [apply, written, Operation.installs]
  | close => simp [apply, predicate_close, Operation.installs]
  | get | length | isEmpty | setPredicate | reset | setHeaders | setProjection => rfl

theorem Sound.moves {hooked : Bool} {s : ResultSet α} (h : s.Sound hooked)
    (operation : Operation α) : s.Moves s.accepts operation := by
  cases operation with
  | next => exact s.advances_next
  | nextRow =>
    rw [Moves, ResultSet.apply, nextRow_snd, isSome_nextRow]
    exact s.advances_next
  | overwrite row =>
    obtain ⟨rows, written⟩ := s.overwrite_frame row
    rw [Moves, ResultSet.apply, written]
    exact ⟨rfl, rfl⟩
  | close => exact ⟨s.position_close, (h.close.closed s.closed_close).2⟩
  | get | length | isEmpty | setPredicate | reset | setHeaders | setProjection => exact ⟨rfl, rfl⟩

theorem rows_apply (s : ResultSet α) {operation : Operation α} (keeps : operation ≠ .close)
    (reads : ∀ row, operation ≠ .overwrite row) : (s.apply operation).rows = s.rows := by
  cases operation with
  | next =>
    obtain ⟨position, current, moved⟩ := s.next_frame
    simp [apply, moved]
  | nextRow =>
    obtain ⟨position, current, moved⟩ := s.next_frame
    simp [apply, nextRow_snd, moved]
  | overwrite row => exact absurd rfl (reads row)
  | close => exact absurd rfl keeps
  | get | length | isEmpty | setPredicate | reset | setHeaders | setProjection => rfl

/-- An overwrite changes the current row and no other. -/
theorem Sound.rows_overwrite {hooked : Bool} {s : ResultSet α} (h : s.Sound hooked) (row : α) :
    (s.apply (.overwrite row)).rows =
      match s.current with
      | some n => s.rows.set n row
      | none => s.rows := by
  unfold ResultSet.apply ResultSet.overwrite
  cases at_row : s.current with
  | none => rfl
  | some n => simp [(h.current n at_row).1]

theorem Sound.get?_of_leaves {hooked : Bool} {s : ResultSet α} (h : s.Sound hooked)
    {operation : Operation α} (leaves : s.Leaves operation) :
    (s.apply operation).get? = none := by
  cases operation with
  | next => exact h.get?_next leaves
  | nextRow =>
    rw [ResultSet.apply, nextRow_snd]
    exact h.get?_next leaves
  | reset => rfl
  | close => exact h.close.get?_of_closed s.closed_close
  | get | overwrite | length | isEmpty | setPredicate | setHeaders | setProjection =>
    exact leaves.elim

/-- A set without a current row has none after an operation that goes to no row. -/
theorem Sound.get?_of_not_reaches {hooked : Bool} {s : ResultSet α} (h : s.Sound hooked)
    (at_none : s.get? = none) {operation : Operation α} (stays : ¬s.Reaches operation) :
    (s.apply operation).get? = none := by
  cases operation with
  | next =>
    have ended : s.Leaves .next := eq_false_of_ne_true stays
    exact h.get?_of_leaves ended
  | nextRow =>
    have ended : s.Leaves .nextRow := eq_false_of_ne_true stays
    exact h.get?_of_leaves ended
  | reset => rfl
  | close => exact h.close.get?_of_closed s.closed_close
  | overwrite row =>
    obtain ⟨rows, written⟩ := s.overwrite_frame row
    rw [(h.apply (.overwrite row)).get?_eq_none_iff, ResultSet.apply, written]
    exact h.get?_eq_none_iff.1 at_none
  | get | length | isEmpty | setPredicate | setHeaders | setProjection => exact at_none

/-! ## Runs -/

theorem Sound.after {hooked : Bool} {s : ResultSet α} (h : s.Sound hooked)
    (operations : List (Operation α)) : (s.after operations).Sound hooked := by
  induction operations generalizing s with
  | nil => exact h
  | cons operation operations ih => exact ih (h.apply operation)

theorem closed_after (s : ResultSet α) (operations : List (Operation α)) :
    (s.after operations).closed = true ↔ s.closed = true ∨ .close ∈ operations := by
  induction operations generalizing s with
  | nil => simp [after]
  | cons operation operations ih =>
    rw [after, List.foldl_cons, ← after, ih, closed_apply, List.mem_cons, or_assoc,
      @eq_comm _ operation]

theorem predicate_after (s : ResultSet α) (operations : List (Operation α)) :
    (s.after operations).predicate =
      (operations.filterMap Operation.installs).getLast?.or s.predicate := by
  induction operations generalizing s with
  | nil => rfl
  | cons operation operations ih =>
    rw [after, List.foldl_cons, ← after, ih, predicate_apply, List.filterMap_cons]
    cases operation.installs with
    | none => rfl
    | some accepted =>
      rw [List.getLast?_cons]
      cases (operations.filterMap Operation.installs).getLast? <;> rfl

theorem accepts_opened (rows : List α) (hooked : Bool) (operations : List (Operation α)) :
    ((opened rows hooked).after operations).accepts = lastInstalled operations := by
  have fresh : (opened rows hooked).predicate = none := by
    cases hooked <;> rfl
  funext row
  rw [accepts, predicate_after, fresh, Option.or_none, lastInstalled]
  cases (operations.filterMap Operation.installs).getLast? <;> rfl

theorem Sound.get?_of_idle {hooked : Bool} {s : ResultSet α} (h : s.Sound hooked)
    (at_none : s.get? = none) {operations : List (Operation α)} (idle : s.Idle operations) :
    (s.after operations).get? = none := by
  induction operations generalizing s with
  | nil => exact at_none
  | cons operation operations ih =>
    exact ih (h.apply operation) (h.get?_of_not_reaches at_none idle.1) idle.2

/-- After any operations on a set that was opened with rows:

* only an overwrite of the current row and closing change the buffer, which was opened with the
  first of the rows with one key; the cursor is right after the current row, and only going to the
  next row, a reset and closing move it;
* draining gives the rows from the cursor on that the predicate installed last accepts, after a
  reset all that it accepts, and the length is their number;
* there is no current row before an operation goes to one, nor, once an operation has left the set
  at none, until another goes to one;
* a closed set stays empty whatever follows, and the hook has run once if the set is closed and
  never before; giving the set up closes it. -/
theorem after_opened (rows : List α) (hooked : Bool) (operations : List (Operation α)) :
    let s := (opened rows hooked).after operations
    let accepted := lastInstalled operations
    ((opened rows hooked).rows = Entity.firsts rows ∧
      (∀ operation, operation ≠ .close → (∀ row, operation ≠ .overwrite row) →
        (s.apply operation).rows = s.rows) ∧
      (∀ row, (s.apply (.overwrite row)).rows =
        match s.current with
        | some n => s.rows.set n row
        | none => s.rows) ∧
      (∀ n, s.current = some n → s.get? = s.rows[n]? ∧ n < s.rows.length ∧ s.position = n + 1) ∧
      (∀ operation, s.Moves accepted operation)) ∧
    ((∀ drained, s.Drains drained ↔ drained = (s.rows.drop s.position).filter accepted) ∧
      (∀ drained, s.reset.Drains drained ↔ drained = s.rows.filter accepted) ∧
      (∀ drained, s.reset.Drains drained → s.length = drained.length)) ∧
    (((opened rows hooked).Idle operations → s.get? = none) ∧
      (∀ operation later, s.Leaves operation → (s.apply operation).Idle later →
        ((s.apply operation).after later).get? = none)) ∧
    ((s.closed = true ↔ .close ∈ operations) ∧
      (.close ∈ operations → s.next.1 = false ∧ s.get? = none ∧ s.length = 0) ∧
      s.hooksRun = (if s.closed then hooked.toNat else 0) ∧ s.close.hooksRun = hooked.toNat) := by
  intro s accepted
  have sound : s.Sound hooked := (sound_opened rows hooked).after operations
  have same : s.accepts = accepted := accepts_opened rows hooked operations
  have all : s.reset.remaining = s.rows.filter accepted := by
    rw [sound.reset.remaining_eq, ← same]
    rfl
  have closes : s.closed = true ↔ .close ∈ operations := by
    have fresh : (opened rows hooked).closed = false := by cases hooked <;> rfl
    rw [closed_after, fresh]
    simp
  refine ⟨⟨?_, fun _ => s.rows_apply, sound.rows_overwrite, fun n at_row => ?_,
      fun operation => same ▸ sound.moves operation⟩,
    ⟨fun drained => ?_, fun drained => ?_, fun drained drains => ?_⟩,
    ⟨fun idle => ?_, fun operation later leaves idle => ?_⟩,
    closes, fun closed => ⟨?_, ?_, ?_⟩, sound.hooksRun, ?_⟩
  · rw [← Entity.distinct_eq_firsts]
    cases hooked <;> rfl
  · refine ⟨?_, sound.current n at_row⟩
    rw [get?, at_row]
    rfl
  · rw [drains_iff, sound.remaining_eq, same]
  · rw [drains_iff, all]
  · rw [drains.eq_remaining, all, length, same]
  · exact (sound_opened rows hooked).get?_of_idle (by cases hooked <;> rfl) idle
  · exact (sound.apply operation).get?_of_idle (sound.get?_of_leaves leaves) idle
  · rw [next, if_pos (closes.2 closed)]
  · exact sound.get?_of_closed (closes.2 closed)
  · rw [length, (sound.closed (closes.2 closed)).1]
    rfl
  · rw [sound.close.hooksRun, if_pos s.closed_close]

end

/-- Three schemas, two of them with one key: the first is written over, the other one rejected, and
then the set is closed and rewound. -/
theorem after_opened_schemas :
    let rows : List Schema := [{ schema := "a" }, { schema := "b" }, { schema := "a" }]
    let used : List (Operation Schema) :=
      [.next, .overwrite { schema := "c" }, .setPredicate fun row => row.schema != "b", .reset]
    let s := (opened rows true).after used
    let given := (opened rows true).after (used ++ [.close, .reset])
    (∀ drained, s.Drains drained ↔ drained = [{ schema := "c" }]) ∧
      .close ∈ used ++ [.close, .reset] ∧ given.next.1 = false ∧ given.close.hooksRun = 1 := by
  intro rows used s given
  have closes : .close ∈ used ++ [.close, .reset] := by simp
  obtain ⟨-, ⟨draining, -⟩, -⟩ := after_opened rows true used
  obtain ⟨-, -, -, -, closed, -, hooks⟩ := after_opened rows true (used ++ [.close, .reset])
  exact ⟨draining, closes, (closed closes).1, hooks⟩

end CatalogReport.ResultSet
