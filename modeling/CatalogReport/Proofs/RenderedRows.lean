import CatalogReport.Proofs.CursorRuns
import CatalogReport.Proofs.JsonRows
import CatalogReport.Proofs.ShownCells

/-!
# Both encoders show the rows that are left

An encoder takes rows from a set until it gets none (`Passes`); `ResultSet.grid` is that loop. Of
the grid, JSON text keeps every row as a record, and a table draws every row as a group of lines in
which the text of each cell (`Cell.Shows`) stands in its column (`Layout.Draws`), with the number of
rows below. So in whatever state a set is, both encoders show the same rows, and nothing is left of
it.
-/

namespace CatalogReport

namespace Layout

/-! ## The lines of a row -/

/-- The texts side by side, each in its column, with a blank on both sides and filled up to the
width of the column. -/
def sideBySide (f : Frame) (widths : List Nat) (texts : List (List Char)) : List Char :=
  f.cells.before ++
    List.intercalate f.cells.between (List.zipWith (fun width text =>
      [' '] ++ text ++ List.replicate (width - Text.width text) ' ' ++ [' ']) widths texts) ++
    f.cells.after

/-- The lines show the texts, one line after the other of each, until the tallest is at its end. A
text that has ended, or a column without one, goes on empty. -/
structure ShowsRow (f : Frame) (widths : List Nat) (texts : List String)
    (lines : List (List Char)) : Prop where
  fits : texts.length ≤ widths.length
  tall : ∀ text ∈ texts, (text.toList.splitOn '\n').length ≤ lines.length
  lines_eq : ∀ n, (h : n < lines.length) → lines[n] = sideBySide f widths
    ((texts ++ List.replicate (widths.length - texts.length) "").map fun text =>
      (text.toList.splitOn '\n').getD n [])

theorem blockOf_eq (text : String) : blockOf text = text.toList.splitOn '\n' := by
  unfold blockOf
  induction text.toList with
  | nil => rfl
  | cons c cs ih =>
    rw [List.splitOn, List.splitOnP_cons_eq_if_modifyHead, ← List.splitOn, ← ih, Text.pieces]
    split
    · rfl
    · cases pieces : Text.pieces (· == '\n') cs with
      | nil => exact absurd pieces (Text.pieces_ne_nil _ cs)
      | cons piece rest => rfl

theorem firstLines_eq (f : Frame) (widths : List Nat) (height : Nat) (row : List Block) :
    firstLines f widths height row = (List.range height).map fun n =>
      f.cells.line (List.zipWith (fun w block => padded w (block.getD n [])) widths row) := by
  induction height generalizing row with
  | zero => rfl
  | succ height ih =>
    have tails (n : Nat) : List.zipWith (fun w block => padded w (block.getD n [])) widths
        (row.map List.tail) =
          List.zipWith (fun w block => padded w (block.getD (n + 1) [])) widths row := by
      rw [List.zipWith_map_right]
      congr 1
      funext w block
      cases block <;> rfl
    have heads : List.zipWith (fun w block => padded w (block.headD [])) widths row =
        List.zipWith (fun w block => padded w (block.getD 0 [])) widths row := by
      congr 1
      funext w block
      cases block <;> rfl
    simp only [firstLines, ih, tails, heads, List.range_succ_eq_map, List.map_cons, List.map_map,
      Function.comp_def]

theorem le_foldl_max {n m : Nat} {ns : List Nat} (h : n ≤ m ∨ n ∈ ns) : n ≤ ns.foldl max m := by
  induction ns generalizing m with
  | nil => simpa using h
  | cons k ns ih =>
    rcases h with h | h
    · exact ih (.inl (Nat.le_trans h (Nat.le_max_left _ _)))
    rcases List.mem_cons.1 h with rfl | h
    · exact ih (.inl (Nat.le_max_right _ _))
    · exact ih (.inr h)

def filled (columns : Nat) (texts : List String) : List String :=
  texts ++ List.replicate (columns - texts.length) ""

theorem showsRow_rowLines (f : Frame) {widths : List Nat} {texts : List String}
    (fits : texts.length ≤ widths.length) :
    ShowsRow f widths texts (rowLines f widths ((filled widths.length texts).map blockOf)) := by
  refine ⟨fits, fun text ht => ?_, fun n hn => ?_⟩
  · rw [rowLines, firstLines_eq, List.length_map, List.length_range, ← blockOf_eq]
    refine le_foldl_max (.inr ?_)
    rw [List.map_map]
    exact List.mem_map.2 ⟨text, List.mem_append_left _ ht, rfl⟩
  · simp only [rowLines, firstLines_eq, List.getElem_map, List.getElem_range,
      List.zipWith_map_right, sideBySide, blockOf_eq]
    rfl

/-! ## Columns -/

theorem squared_map (rows : List (List String)) :
    squared (rows.map fun row => row.map blockOf) =
      rows.map fun row => (filled ((rows.map List.length).foldl max 0) row).map blockOf := by
  simp only [squared, List.map_map, Function.comp_def, List.length_map, filled, List.map_append,
    List.map_replicate]
  rfl

theorem length_columnWidths {n : Nat} {rows : List (List Block)} (nonempty : rows ≠ [])
    (h : ∀ row ∈ rows, row.length = n) : (columnWidths rows).length = n := by
  obtain ⟨row, rest, rfl⟩ := List.exists_cons_of_ne_nil nonempty
  obtain ⟨first, later⟩ := List.forall_mem_cons.1 h
  rw [columnWidths]
  have length : (row.map blockWidth).length = n := by simp [first]
  generalize row.map blockWidth = widths at length
  clear h nonempty
  induction rest generalizing widths with
  | nil => exact length
  | cons next rest ih =>
    obtain ⟨same, later⟩ := List.forall_mem_cons.1 later
    exact ih later _ (by simp [length, same])

/-- The rows of texts, as wide as the longest of them, stand in columns of these widths. -/
def widthsOf (rows : List (List String)) : List Nat :=
  columnWidths (squared (rows.map fun row => row.map blockOf))

theorem length_widthsOf {rows : List (List String)} (nonempty : rows ≠ []) :
    (widthsOf rows).length = (rows.map List.length).foldl max 0 := by
  rw [widthsOf, squared_map]
  refine length_columnWidths (by simpa using nonempty) fun blocks hb => ?_
  obtain ⟨row, hr, rfl⟩ := List.mem_map.1 hb
  have fits : row.length ≤ (rows.map List.length).foldl max 0 :=
    le_foldl_max (.inr (List.mem_map_of_mem hr))
  simp [filled]
  omega

/-! ## Tables -/

/-- The rules of a table, its header and its rows, from top to bottom. A table without columns has
none. -/
def stacked (f : Frame) (widths : List Nat) (head : List (List Char))
    (body : List (List (List Char))) : List (List Char) :=
  if widths = [] then []
  else
    (f.top.map (·.line widths)).toList ++ head ++ (f.below.map (·.line widths)).toList ++
      body.flatten ++ (if body = [] then [] else (f.bottom.map (·.line widths)).toList)

theorem tableLines_cons (border : Border) (widths : List Nat) (header : List Block)
    (rows : List (List Block)) :
    tableLines border widths (header :: rows) =
      stacked (frame border) widths (rowLines (frame border) widths header)
        (rows.map (rowLines (frame border) widths)) := by
  simp only [tableLines, stacked, List.isEmpty_iff, List.map_eq_nil_iff, List.flatMap_def]

/-- The text is a table of these texts: the title, in bold or not, the header, the rows in order as
groups of lines, and below them a number of rows. -/
def Draws (bold : Bool) (o : Options) (header : List String) (rows : List (List String))
    (count : Nat) (text : List Char) : Prop :=
  ∃ widths head body,
    ShowsRow (frame o.border) widths header head ∧
    List.Forall₂ (ShowsRow (frame o.border) widths) rows body ∧
    text =
      (match o.title with
        | some title =>
          let line := centred (max (totalWidth o.border widths) title.utf8ByteSize) title
          (if bold then "\x1b[1m".toList ++ line ++ "\x1b[0m".toList else line) ++ ['\n']
        | none => []) ++
      List.intercalate ['\n'] (stacked (frame o.border) widths head body) ++ ['\n'] ++
      (if o.footer then
        ['('] ++ (toString count).toList ++ (if count = 1 then " row)\n" else " rows)\n").toList
      else []) ++
      ['\n']

theorem footerText_eq (count : Nat) : (footerText count).toList ++ ['\n'] =
    ['('] ++ (toString count).toList ++ (if count = 1 then " row)\n" else " rows)\n").toList := by
  have number : toString ((count : Nat) : Int) = toString count := rfl
  by_cases one : count = 1
  · subst one
    decide
  · simp [footerText, one, Cell.wholeText_eq, number, String.toList_append]

theorem draws_tableText (bold : Bool) (grid : Grid) (o : Options) :
    Draws bold o grid.headers (grid.rows.map fun row => row.map (Cell.display o.nullText))
      grid.rows.length (tableText bold grid o) := by
  generalize htexts : (grid.rows.map fun row => row.map (Cell.display o.nullText)) = rows
  have blocks : (grid.headers.map blockOf ::
      grid.rows.map fun row => row.map fun c => blockOf (c.display o.nullText)) =
        (grid.headers :: rows).map fun row => row.map blockOf := by
    simp [← htexts, Function.comp_def]
  have columns := length_widthsOf (List.cons_ne_nil grid.headers rows)
  have fits : ∀ row ∈ grid.headers :: rows, row.length ≤ (widthsOf (grid.headers :: rows)).length :=
    fun row hr => columns ▸ le_foldl_max (.inr (List.mem_map_of_mem hr))
  obtain ⟨headerFits, rowsFit⟩ := List.forall_mem_cons.1 fits
  have shown : squared ((grid.headers :: rows).map fun row => row.map blockOf) =
      (grid.headers :: rows).map fun row =>
        (filled (widthsOf (grid.headers :: rows)).length row).map blockOf := by
    rw [squared_map, columns]
  have widths : columnWidths (squared ((grid.headers :: rows).map fun row => row.map blockOf)) =
      widthsOf (grid.headers :: rows) := rfl
  generalize widthsOf (grid.headers :: rows) = ws at *
  have body : List.Forall₂ (ShowsRow (frame o.border) ws) rows
      (rows.map fun row => rowLines (frame o.border) ws ((filled ws.length row).map blockOf)) :=
    List.forall₂_map_right_iff.2 (List.forall₂_same.2 fun row hr =>
      showsRow_rowLines (frame o.border) (rowsFit row hr))
  refine ⟨ws, _, _, showsRow_rowLines (frame o.border) headerFits, body, ?_⟩
  simp only [tableText, blocks, widths, ← footerText_eq]
  rw [shown, List.map_cons, tableLines_cons, List.map_map]
  cases o.title <;> cases o.footer <;> simp [unlines, emphasized, Function.comp_def]

end Layout

namespace ResultSet

variable {α : Type}

/-! ## The end of a set -/

theorem next_of_ended {s : ResultSet α} (h : s.next.1 = false) : s.next.2 = s.exhausted := by
  unfold next exhausted at *
  split
  · rfl
  · rename_i isOpen
    rw [if_neg isOpen] at h
    split at h
    · cases h
    · rfl

theorem exhausted_next (s : ResultSet α) : s.next.2.exhausted = s.exhausted := by
  cases closed : s.closed with
  | true => rw [next, if_pos closed]
  | false =>
    cases search : findFrom s.accepts s.position (s.rows.drop s.position) with
    | none =>
      have ended : s.next.1 = false := by simp [next, closed, search]
      rw [next_of_ended ended]
      simp [exhausted, closed]
    | some n =>
      obtain ⟨later, row, there, -⟩ := findFrom_eq_some search
      rw [List.getElem?_drop] at there
      obtain ⟨inside, -⟩ := List.getElem?_eq_some_iff.1 there
      have top : max (n + 1) s.rows.length = max s.position s.rows.length := by omega
      simp [next, exhausted, closed, search, top]

/-- Nothing is left of a set at its end. -/
theorem next_exhausted (s : ResultSet α) : s.exhausted.next.1 = false := by
  have none_left : s.exhausted.remaining = [] := by
    have past : s.rows.drop (max s.position s.rows.length) = [] :=
      List.drop_eq_nil_of_le (Nat.le_max_right _ _)
    cases closed : s.closed <;> simp [exhausted, remaining, closed, past]
  rcases s.exhausted.next_cases with ⟨ended, -⟩ | ⟨-, row, -, more⟩
  · exact ended
  · exact absurd (none_left.symm.trans more) (by simp)

theorem Sound.get?_exhausted {hooked : Bool} {s : ResultSet α} (h : s.Sound hooked) :
    s.exhausted.get? = none := by
  unfold exhausted
  split
  · rename_i closed
    exact h.get?_of_closed closed
  · rfl

variable [Entity α]

/-! ## Passing the rows -/

/-- The cells that a set hands out, row by row, until there are none, and the set after that. -/
inductive Passes : ResultSet α → List (List Cell) → ResultSet α → Prop where
  | stop {s : ResultSet α} (h : s.nextRow.1 = none) : Passes s [] s.nextRow.2
  | step {s t : ResultSet α} {cells : List Cell} {rows : List (List Cell)}
    (h : s.nextRow.1 = some cells) (rest : Passes s.nextRow.2 rows t) : Passes s (cells :: rows) t

theorem project_next (s : ResultSet α) : s.next.2.project = s.project := by
  obtain ⟨position, current, moved⟩ := s.next_frame
  rw [moved]
  rfl

/-- Either nothing is left and the set is at its end, or the first row that is left is handed
out. -/
theorem nextRow_cases (s : ResultSet α) :
    (s.nextRow.1 = none ∧ s.remaining = [] ∧ s.nextRow.2 = s.exhausted) ∨
      ∃ row, s.nextRow.1 = some (s.project row) ∧ s.remaining = row :: s.nextRow.2.remaining ∧
        s.nextRow.2.project = s.project ∧ s.nextRow.2.exhausted = s.exhausted := by
  rw [nextRow_snd]
  rcases s.next_cases with ⟨ended, left⟩ | ⟨moved, row, at_row, left⟩
  · refine .inl ⟨?_, left, next_of_ended ended⟩
    unfold nextRow
    split <;> simp_all
  · refine .inr ⟨row, ?_, left, s.project_next, s.exhausted_next⟩
    have same := s.project_next
    unfold nextRow
    split <;> simp_all

/-- The rows that are left are handed out in order. -/
theorem passes_grid (s : ResultSet α) : s.Passes s.grid.1.rows s.grid.2 := by
  have rows (s : ResultSet α) : s.grid.1.rows = s.remaining.map s.project := rfl
  have last (s : ResultSet α) : s.grid.2 = s.exhausted := rfl
  rw [rows, last]
  generalize left : s.remaining = list
  induction list generalizing s with
  | nil =>
    rcases s.nextRow_cases with ⟨none, -, ended⟩ | ⟨row, -, more, -⟩
    · rw [← ended]
      exact .stop none
    · exact absurd (left.symm.trans more) (by simp)
  | cons row list ih =>
    rcases s.nextRow_cases with ⟨-, none_left, -⟩ | ⟨row', handed, more, same, ended⟩
    · exact absurd (left.symm.trans none_left) (by simp)
    · obtain ⟨rfl, rest⟩ := List.cons.inj (left.symm.trans more)
      have later := ih s.nextRow.2 rest.symm
      rw [same, ended] at later
      exact .step handed later

theorem Passes.unique {s t t' : ResultSet α} {rows rows' : List (List Cell)} (h : s.Passes rows t)
    (h' : s.Passes rows' t') : rows = rows' ∧ t = t' := by
  induction h generalizing rows' with
  | stop none =>
    cases h' with
    | stop _ => exact ⟨rfl, rfl⟩
    | step some _ => exact absurd (none.symm.trans some) (by simp)
  | step some _ ih =>
    cases h' with
    | stop none => exact absurd (none.symm.trans some) (by simp)
    | step some' rest =>
      cases some.symm.trans some'
      obtain ⟨rfl, rfl⟩ := ih rest
      exact ⟨rfl, rfl⟩

theorem passes_iff {s t : ResultSet α} {rows : List (List Cell)} :
    s.Passes rows t ↔ rows = s.grid.1.rows ∧ t = s.grid.2 :=
  ⟨fun h => h.unique s.passes_grid, fun ⟨hr, ht⟩ => hr ▸ ht ▸ s.passes_grid⟩

/-- A set that is at its first row has all that it accepts left. -/
theorem Sound.length_remaining {hooked : Bool} {s : ResultSet α} (h : s.Sound hooked)
    (first : s.position = 0) : s.grid.1.rows.length = s.length := by
  rw [grid, List.length_map, h.remaining_eq, first, List.drop_zero, length]

/-- Whatever was done to a set, what is left of it are the rows from the cursor on that the
predicate installed last accepts, and either encoder shows just these:

* taking rows until there are none gives their cells, and then the set is at its end;
* in JSON, whatever the style, they are as many records, each of the cells of its row;
* as a table they are as many groups of lines, each with what is shown for these cells, and the
  footer gives their number;
* when the set was just opened or reset, their number is the length. -/
theorem rendered_rows (rows : List α) (hooked : Bool) (operations : List (Operation α))
    (o : Options) :
    let s := (opened rows hooked).after operations
    let left := (s.rows.drop s.position).filter (lastInstalled operations)
    let cells := left.map s.project
    ((∀ taken t, s.Passes taken t ↔ taken = cells ∧ t = s.grid.2) ∧
      s.grid.2.next.1 = false ∧ s.grid.2.get? = none) ∧
    (∃ records, List.Forall₂ (Encoder.RowDecodes s.shownHeaders) cells records ∧
      records.length = left.length ∧
      ∀ style, ∃ text, Encoder.encode (.json style) (.table s.grid.1 o) = text ++ "\n" ∧
        Encoder.Spells text (.record [("rows", .list (records.map .record)),
          ("title", (o.title.map .text).getD .null)])) ∧
    (∃ texts, List.Forall₂ (List.Forall₂ (Cell.Shows o.nullText)) cells texts ∧
      ∀ bold, ∃ text, Encoder.encode (.table bold) (.table s.grid.1 o) = String.ofList text ∧
        Layout.Draws bold o s.shownHeaders texts left.length text) ∧
    (opened rows hooked).grid.1.rows.length = (opened rows hooked).length ∧
    s.reset.grid.1.rows.length = s.reset.length := by
  intro s left cells
  have sound : s.Sound hooked := (sound_opened rows hooked).after operations
  have same : s.accepts = lastInstalled operations := accepts_opened rows hooked operations
  have shown : s.grid.1 = ⟨s.shownHeaders, cells⟩ := by
    rw [grid, sound.remaining_eq, same]
  have count : cells.length = left.length := List.length_map _
  refine ⟨⟨fun taken t => ?_, s.next_exhausted, sound.get?_exhausted⟩, ?_, ?_,
    (sound_opened rows hooked).length_remaining (by cases hooked <;> rfl),
    sound.reset.length_remaining rfl⟩
  · rw [passes_iff, shown]
  · rw [shown]
    refine ⟨_, Encoder.forall₂_rowDecodes ⟨s.shownHeaders, cells⟩, by simp [count], fun style => ?_⟩
    rw [List.map_map]
    exact Encoder.exists_spells_grid _ o style
  · rw [shown, ← count]
    refine ⟨cells.map fun row => row.map (Cell.display o.nullText), ?_, fun bold =>
      ⟨_, rfl, Layout.draws_tableText bold ⟨s.shownHeaders, cells⟩ o⟩⟩
    exact List.forall₂_map_right_iff.2 (List.forall₂_same.2 fun row _ =>
      List.forall₂_map_right_iff.2 (List.forall₂_same.2 fun c _ => c.shows_display o.nullText))

end ResultSet

end CatalogReport
