import CatalogReport.Proofs.Criteria
import CatalogReport.Proofs.Words

/-!
# Placeholders and bound values

No value gets into the text of a statement: the text depends on how many values each criterion has,
and the values are bound as they are (`statement_shape`). The placeholders of the text stand for the
bound values one by one, from left to right, and each stands in the clause of the criterion that its
value comes from (`statement_aligned`). `Numbered` carries this: a part of the text has the
placeholders of so many values from some number on, whatever comes after it.
-/

namespace CatalogReport

/-! ## Values and the text -/

namespace Clause

def shape : Clause → Clause
  | .like column _ => .like column ""
  | .among column values => .among column (values.map fun _ => "")
  | .outside column values => .outside column (values.map fun _ => "")

theorem text_shape (e : Engine) (n : Nat) (clause : Clause) :
    clause.shape.text e n = clause.text e n := by
  cases clause <;> simp [shape, text]

theorem length_binds_shape (clause : Clause) :
    clause.shape.binds.length = clause.binds.length := by
  cases clause <;> simp [shape, binds]

theorem texts_shape (e : Engine) (n : Nat) (clauses : List Clause) :
    texts e n (clauses.map shape) = texts e n clauses := by
  induction clauses generalizing n with
  | nil => rfl
  | cons clause clauses ih =>
    rw [List.map_cons, texts, texts, text_shape, length_binds_shape, ih]

theorem shape_clause (criterion : Criterion) (column : String) {values values' : List String}
    (h : values.length = values'.length) :
    (criterion.clause column values).shape = (criterion.clause column values').shape := by
  have blank : (values.map fun _ => "") = values'.map fun _ => "" := by
    rw [List.map_const', List.map_const', h]
  cases criterion <;> simp [Criterion.clause, shape, blank]

end Clause

/-- The filters have the same patterns empty, as many types, and want system rows alike. -/
structure Filter.SameShape (f f' : Filter) : Prop where
  patterns : ∀ a, (f.pattern a).isEmpty = (f'.pattern a).isEmpty
  types : f.types.names.length = f'.types.names.length
  withSystem : f.withSystem = f'.withSystem

theorem Filter.SameShape.length_values {f f' : Filter} (h : f.SameShape f')
    {system system' : List String} (schemas : system.length = system'.length)
    (criterion : Criterion) :
    (f.values system criterion).length = (f'.values system' criterion).length := by
  cases criterion with
  | pattern a => cases empty : (f'.pattern a).isEmpty <;> simp [values_pattern, h.patterns, empty]
  | types => exact h.types
  | system => cases wanted : f'.withSystem <;> simp [values, h.withSystem, wanted, schemas]

theorem FilterColumns.shape_clauses (c : FilterColumns) {f f' : Filter} (h : f.SameShape f')
    {system system' : List String} (schemas : system.length = system'.length) :
    (c.clauses f system).map Clause.shape = (c.clauses f' system').map Clause.shape := by
  rw [clauses_eq, clauses_eq, List.map_filterMap, List.map_filterMap]
  refine congrArg (List.filterMap · _) (funext fun criterion => ?_)
  have size := h.length_values schemas criterion
  unfold clause?
  cases c.column? criterion with
  | none => rfl
  | some column =>
    cases first : f.values system criterion with
    | nil =>
      rw [first] at size
      rw [List.length_eq_zero_iff.1 size.symm]
    | cons value values =>
      cases second : f'.values system' criterion with
      | nil => simp [first, second] at size
      | cons value' values' =>
        rw [first, second] at size
        exact congrArg some (Clause.shape_clause criterion column size)

namespace CatalogQuery

def opening (q : CatalogQuery) : String :=
  "SELECT * FROM (" ++ Text.trim q.text ++ ") AS q"

def ordering (q : CatalogQuery) : String :=
  if q.order.isEmpty then "" else " ORDER BY " ++ q.order

theorem text_statement (q : CatalogQuery) (e : Engine) (f : Filter) (system : List String) :
    (q.statement e f system).text =
      q.opening ++ conditionText e (q.columns.clauses f system) ++ q.ordering :=
  rfl

theorem conditionText_shape (e : Engine) (clauses : List Clause) :
    conditionText e (clauses.map Clause.shape) = conditionText e clauses := by
  unfold conditionText
  rw [Clause.texts_shape, List.isEmpty_map]

/-- Filters of one shape, with as many system schemas, make one text; their values are bound as they
are, criterion by criterion. -/
theorem statement_shape (q : CatalogQuery) (e : Engine) {f f' : Filter}
    (same : f.SameShape f') {system system' : List String}
    (schemas : system.length = system'.length) :
    (q.statement e f system).text = (q.statement e f' system').text ∧
      (q.statement e f system).binds = Criterion.all.flatMap (q.columns.bound f system) ∧
      (q.statement e f' system').binds = Criterion.all.flatMap (q.columns.bound f' system') := by
  refine ⟨?_, q.columns.binds_clauses f system, q.columns.binds_clauses f' system'⟩
  have condition : conditionText e (q.columns.clauses f system) =
      conditionText e (q.columns.clauses f' system') := by
    rw [← conditionText_shape, q.columns.shape_clauses same schemas, conditionText_shape]
  rw [text_statement, text_statement, condition]

/-- A pattern that looks like SQL makes the text that any other pattern makes. -/
theorem statement_shape_quoted :
    let q := Kind.query .tables "SELECT * FROM relations"
    let f : Filter := { name := "x' OR '1' = '1", types := ⟨["TABLE", "VIEW"], by decide⟩ }
    let f' : Filter := { name := "hits%", types := ⟨["$1", "?"], by decide⟩ }
    f.SameShape f' ∧ ["sys"].length = ["; DROP TABLE t"].length ∧
      (q.statement .postgres f ["sys"]).text =
        (q.statement .postgres f' ["; DROP TABLE t"]).text := by
  intro q f f'
  have same : f.SameShape f' := ⟨fun a => by cases a <;> decide, rfl, rfl⟩
  exact ⟨same, rfl, (q.statement_shape .postgres same rfl).1⟩

end CatalogQuery

/-! ## Placeholders in a text -/

namespace Engine

def mark : Engine → Char
  | .postgres => '$'
  | .mysql | .sqlite => '?'

theorem not_isColumnChar_mark (e : Engine) : ¬Kind.isColumnChar e.mark = true := by
  cases e <;> decide

/-- The placeholders in a text from left to right, each a mark with the digits after it. -/
def placeholdersIn (e : Engine) : List Char → List (List Char)
  | [] => []
  | c :: cs =>
    if c = e.mark then (c :: cs.takeWhile Char.isDigit) :: e.placeholdersIn cs
    else e.placeholdersIn cs

/-- What stands for the `n`th value: its number after a dollar sign, or a question mark. -/
def placeholderChars : Engine → Nat → List Char
  | .postgres, n => '$' :: Nat.toDigits 10 n
  | .mysql, _ | .sqlite, _ => ['?']

theorem toList_placeholder (e : Engine) (n : Nat) :
    (e.placeholder n).toList = e.placeholderChars n := by
  cases e <;> simp [placeholder, placeholderChars]

/-- The placeholders of `count` values from the `n`th on. -/
def placeholderList (e : Engine) (n count : Nat) : List (List Char) :=
  (List.range' n count).map e.placeholderChars

theorem placeholderList_append (e : Engine) (n count more : Nat) :
    e.placeholderList n count ++ e.placeholderList (n + count) more =
      e.placeholderList n (count + more) := by
  unfold placeholderList
  rw [← List.map_append, List.range'_append_1]

theorem placeholdersIn_of_unmarked {e : Engine} {text : List Char} (h : e.mark ∉ text)
    (rest : List Char) : e.placeholdersIn (text ++ rest) = e.placeholdersIn rest := by
  induction text with
  | nil => rfl
  | cons c text ih =>
    rw [List.mem_cons, not_or] at h
    rw [List.cons_append, placeholdersIn, if_neg (Ne.symm h.1), ih h.2]

/-- The text does not go on with a digit, which would belong to a placeholder before it. -/
def Parts (text : List Char) : Prop :=
  ∀ c ∈ text.head?, c.isDigit = false

theorem Parts.append {text rest : List Char} (h : Parts text) (h' : Parts rest) :
    Parts (text ++ rest) := by
  cases text with
  | nil => exact h'
  | cons c text => exact h

/-- The text has the placeholders of `count` values from the `n`th on, in this order. -/
def Numbered (e : Engine) (n count : Nat) (text : List Char) : Prop :=
  ∀ rest, Parts rest →
    e.placeholdersIn (text ++ rest) = e.placeholderList n count ++ e.placeholdersIn rest

variable {e : Engine} {n count more : Nat} {text text' : List Char}

theorem Numbered.placeholdersIn_eq (h : e.Numbered n count text) :
    e.placeholdersIn text = e.placeholderList n count := by
  have alone := h [] nofun
  rwa [List.append_nil, placeholdersIn, List.append_nil] at alone

theorem numbered_of_unmarked (h : e.mark ∉ text) (n : Nat) : e.Numbered n 0 text :=
  fun rest _ => placeholdersIn_of_unmarked h rest

theorem Numbered.append (h : e.Numbered n count text) (h' : e.Numbered (n + count) more text')
    (parts : Parts text') : e.Numbered n (count + more) (text ++ text') := by
  intro rest stop
  rw [List.append_assoc, h _ (parts.append stop), h' rest stop, ← List.append_assoc,
    placeholderList_append]

theorem Numbered.before (h : e.mark ∉ text) (h' : e.Numbered n count text') :
    e.Numbered n count (text ++ text') := by
  intro rest stop
  rw [List.append_assoc, placeholdersIn_of_unmarked h, h' rest stop]

theorem Numbered.after (h : e.Numbered n count text) (h' : e.mark ∉ text') (parts : Parts text') :
    e.Numbered n count (text ++ text') :=
  h.append (numbered_of_unmarked h' _) parts

theorem numbered_placeholder (e : Engine) (n : Nat) :
    e.Numbered n 1 (e.placeholder n).toList := by
  rw [toList_placeholder]
  intro rest stop
  have alone : ∀ rest, Parts rest → rest.takeWhile Char.isDigit = [] := by
    intro rest stop
    cases rest with
    | nil => rfl
    | cons c rest => rw [List.takeWhile_cons, stop c rfl, if_neg (by simp)]
  cases e with
  | postgres =>
    have digits : ∀ c ∈ Nat.toDigits 10 n, c.isDigit = true := fun c h =>
      Nat.isDigit_of_mem_toDigits (by decide) (by decide) h
    have unmarked : Engine.postgres.mark ∉ Nat.toDigits 10 n := fun h =>
      absurd (digits _ h) (by decide)
    have taken : (Nat.toDigits 10 n ++ rest).takeWhile Char.isDigit = Nat.toDigits 10 n := by
      rw [List.takeWhile_append_of_pos digits, alone rest stop, List.append_nil]
    have first : placeholdersIn .postgres ('$' :: (Nat.toDigits 10 n ++ rest)) =
        ('$' :: Nat.toDigits 10 n) :: placeholdersIn .postgres rest := by
      rw [placeholdersIn, if_pos (by rfl), taken, placeholdersIn_of_unmarked unmarked]
    exact first
  | mysql | sqlite =>
    simp [placeholderChars, placeholdersIn, placeholderList, mark, alone rest stop]

end Engine

/-! ## Placeholders of clauses -/

open Engine (Numbered Parts numbered_placeholder numbered_of_unmarked)

namespace Clause

variable {e : Engine}

theorem numbered_placeholders (e : Engine) (n count : Nat) :
    e.Numbered n count (placeholders e n count).toList := by
  unfold placeholders
  rw [String.toList_intercalate, List.map_map]
  induction count generalizing n with
  | zero => exact numbered_of_unmarked (by simp) n
  | succ count ih =>
    cases count with
    | zero =>
      have single := numbered_placeholder e n
      simpa using single
    | succ count =>
      have comma : e.mark ∉ ", ".toList := by cases e <;> decide
      have later := (ih (n + 1)).before comma
      have both := (numbered_placeholder e n).append later (fun c h => by cases h; rfl)
      rw [Nat.add_comm 1] at both
      simpa [List.range'_succ] using both

theorem numbered_text {clause : Clause} (h : e.mark ∉ clause.column.toList) (n : Nat) :
    e.Numbered n clause.binds.length (clause.text e n).toList := by
  have point : e.mark ∉ "q.".toList := by cases e <;> decide
  have close : e.mark ∉ ")".toList := by cases e <;> decide
  -- What stands before the placeholders: the column and an operator.
  have opening (operator : String) (plain : e.mark ∉ operator.toList) :
      e.mark ∉ "q.".toList ++ clause.column.toList ++ operator.toList := by
    simp only [List.mem_append, not_or]
    exact ⟨⟨point, h⟩, plain⟩
  cases clause with
  | like column pattern =>
    have front := opening " LIKE " (by cases e <;> decide)
    have whole := (numbered_placeholder e n).before front
    simpa [text, Clause.column, binds] using whole
  | among column values =>
    have front := opening " IN (" (by cases e <;> decide)
    have list := (numbered_placeholders e n values.length).after close fun c h => by cases h; rfl
    simpa [text, Clause.column, binds] using list.before front
  | outside column values =>
    have front := opening " NOT IN (" (by cases e <;> decide)
    have list := (numbered_placeholders e n values.length).after close fun c h => by cases h; rfl
    simpa [text, Clause.column, binds] using list.before front

theorem parts_text (clause : Clause) (n : Nat) : Parts (clause.text e n).toList := by
  cases clause <;> simp [Parts, text]

/-! ## Clauses side by side -/

/-- The clauses with these values bound, joined so that another clause can follow. -/
def leading (e : Engine) (n : Nat) (clauses : List Clause) : List Char :=
  (texts e n clauses).flatMap fun text => text.toList ++ " AND ".toList

def trailing (e : Engine) (n : Nat) (clauses : List Clause) : List Char :=
  (texts e n clauses).flatMap fun text => " AND ".toList ++ text.toList

theorem texts_append (e : Engine) (n : Nat) (clauses more : List Clause) :
    texts e n (clauses ++ more) =
      texts e n clauses ++ texts e (n + (clauses.flatMap binds).length) more := by
  induction clauses generalizing n with
  | nil => rfl
  | cons clause clauses ih =>
    rw [List.cons_append, texts, texts, ih, List.cons_append, List.flatMap_cons,
      List.length_append, Nat.add_assoc]

theorem intercalate_append_cons {α : Type} (separator : List α) (items more : List (List α))
    (item : List α) :
    separator.intercalate (items ++ item :: more) =
      items.flatMap (· ++ separator) ++ item ++ more.flatMap (separator ++ ·) := by
  have after : ∀ item, separator.intercalate (item :: more) =
      item ++ more.flatMap (separator ++ ·) := by
    induction more with
    | nil => simp
    | cons next more ih => simp [ih]
  induction items with
  | nil => exact after item
  | cons first items ih =>
    cases items with
    | nil => simp [after]
    | cons second items =>
      rw [List.cons_append, List.cons_append, List.intercalate_cons_cons, ← List.cons_append, ih]
      simp

theorem not_mem_intercalate {α : Type} {a : α} {separator : List α} {items : List (List α)}
    (hs : a ∉ separator) (h : ∀ item ∈ items, a ∉ item) : a ∉ separator.intercalate items := by
  induction items with
  | nil => simp
  | cons item items ih =>
    have rest := ih fun other listed => h other (List.mem_cons_of_mem _ listed)
    cases items with
    | nil => simpa using h item List.mem_cons_self
    | cons next items =>
      rw [List.intercalate_cons_cons, List.mem_append, List.mem_append, not_or, not_or]
      exact ⟨⟨h item List.mem_cons_self, hs⟩, rest⟩

theorem toList_conditionText (e : Engine) (earlier later : List Clause) (clause : Clause) :
    (CatalogQuery.conditionText e (earlier ++ clause :: later)).toList =
      " WHERE ".toList ++ leading e 1 earlier ++
        (clause.text e (1 + (earlier.flatMap binds).length)).toList ++
        trailing e (1 + (earlier.flatMap binds).length + clause.binds.length) later := by
  have some_clause : (earlier ++ clause :: later).isEmpty = false := by simp
  unfold CatalogQuery.conditionText leading trailing
  rw [some_clause, if_neg (by simp), String.toList_append, String.toList_intercalate, texts_append,
    List.map_append, texts, List.map_cons, intercalate_append_cons, List.flatMap_map,
    List.flatMap_map]
  simp only [List.append_assoc]

theorem parts_trailing (n : Nat) (clauses : List Clause) : Parts (trailing e n clauses) := by
  cases clauses with
  | nil => exact nofun
  | cons clause clauses => exact fun c h => by cases h; rfl

theorem numbered_leading {clauses : List Clause}
    (h : ∀ clause ∈ clauses, e.mark ∉ clause.column.toList) (n : Nat) :
    e.Numbered n (clauses.flatMap binds).length (leading e n clauses) := by
  induction clauses generalizing n with
  | nil => exact numbered_of_unmarked (by simp [leading, texts]) n
  | cons clause clauses ih =>
    have separator : e.mark ∉ " AND ".toList := by cases e <;> decide
    have first := numbered_text (h clause List.mem_cons_self) n
    have rest := ih (fun other listed => h other (List.mem_cons_of_mem _ listed))
      (n + clause.binds.length)
    have both := first.append (rest.before separator) fun c h => by cases h; rfl
    simpa [leading, texts, List.flatMap_cons] using both

theorem numbered_trailing {clauses : List Clause}
    (h : ∀ clause ∈ clauses, e.mark ∉ clause.column.toList) (n : Nat) :
    e.Numbered n (clauses.flatMap binds).length (trailing e n clauses) := by
  induction clauses generalizing n with
  | nil => exact numbered_of_unmarked (by simp [trailing, texts]) n
  | cons clause clauses ih =>
    have separator : e.mark ∉ " AND ".toList := by cases e <;> decide
    have first := (numbered_text (h clause List.mem_cons_self) n).before separator
    have rest := ih (fun other listed => h other (List.mem_cons_of_mem _ listed))
      (n + clause.binds.length)
    have both := first.append rest (parts_trailing _ _)
    simpa [trailing, texts, List.flatMap_cons] using both

theorem exists_clause_of_bound {clauses : List Clause} {i : Nat} {value : String}
    (h : (clauses.flatMap binds)[i]? = some value) :
    ∃ earlier clause later j, clauses = earlier ++ clause :: later ∧
      i = (earlier.flatMap binds).length + j ∧ clause.binds[j]? = some value := by
  induction clauses generalizing i with
  | nil => simp at h
  | cons clause clauses ih =>
    rw [List.flatMap_cons] at h
    rcases Nat.lt_or_ge i clause.binds.length with inside | beyond
    · rw [List.getElem?_append_left inside] at h
      exact ⟨[], clause, clauses, i, rfl, by simp, h⟩
    · rw [List.getElem?_append_right beyond] at h
      obtain ⟨earlier, other, later, j, rfl, place, bound⟩ := ih h
      refine ⟨clause :: earlier, other, later, j, rfl, ?_, bound⟩
      rw [List.flatMap_cons, List.length_append]
      omega

end Clause

/-! ## Clauses of criteria -/

/-- The clause of a criterion on a column, with its `count` values numbered from `n`. -/
def Criterion.spelled (e : Engine) (n count : Nat) (column : String) : Criterion → List Char
  | .pattern _ => "q.".toList ++ column.toList ++ " LIKE ".toList ++ e.placeholderChars n
  | .types =>
    "q.".toList ++ column.toList ++ " IN (".toList ++
      ", ".toList.intercalate (e.placeholderList n count) ++ ")".toList
  | .system =>
    "q.".toList ++ column.toList ++ " NOT IN (".toList ++
      ", ".toList.intercalate (e.placeholderList n count) ++ ")".toList

theorem Clause.toList_placeholders (e : Engine) (n count : Nat) :
    (placeholders e n count).toList = ", ".toList.intercalate (e.placeholderList n count) := by
  unfold placeholders Engine.placeholderList
  rw [String.toList_intercalate, List.map_map]
  exact congrArg (fun chars => List.intercalate _ ((List.range' n count).map chars))
    (funext e.toList_placeholder)

namespace FilterColumns

variable (c : FilterColumns) (e : Engine) (f : Filter) (system : List String)

/-- The clauses of criteria one after another, with their values numbered from `n`; a criterion
without a column or without values is passed over. -/
def spelled : Nat → List Criterion → List (List Char)
  | _, [] => []
  | n, criterion :: rest =>
    match c.column? criterion, f.values system criterion with
    | some column, _ :: more =>
      criterion.spelled e n (more.length + 1) column :: spelled (n + (more.length + 1)) rest
    | _, _ => spelled n rest

def spelledCondition : List Char :=
  match c.spelled e f system 1 Criterion.all with
  | [] => []
  | clause :: more => " WHERE ".toList ++ " AND ".toList.intercalate (clause :: more)

variable {c e f system}

theorem toList_text_of_clause? {criterion : Criterion} {clause : Clause}
    (made : c.clause? f system criterion = some clause) (n : Nat) :
    (clause.text e n).toList =
      criterion.spelled e n (f.values system criterion).length clause.column := by
  obtain ⟨column, -, nonempty, rfl⟩ := clause?_eq_some_iff.1 made
  cases criterion <;>
    simp [Criterion.clause, Clause.text, Clause.column, Criterion.spelled,
      Clause.toList_placeholders, Engine.toList_placeholder]

variable (c e f system)

theorem toList_texts (n : Nat) (criteria : List Criterion) :
    (Clause.texts e n (criteria.filterMap (c.clause? f system))).map String.toList =
      c.spelled e f system n criteria := by
  induction criteria generalizing n with
  | nil => rfl
  | cons criterion rest ih =>
    cases made : c.clause? f system criterion with
    | none =>
      rw [List.filterMap_cons_none made, ih]
      rcases clause?_eq_none_iff.1 made with unmapped | empty
      · simp [spelled, unmapped]
      · simp [spelled, empty]
    | some clause =>
      rw [List.filterMap_cons_some made, Clause.texts, List.map_cons, ih,
        toList_text_of_clause? made, binds_of_clause? made]
      have mapped := column?_of_clause? made
      obtain ⟨-, -, nonempty, -⟩ := clause?_eq_some_iff.1 made
      cases held : f.values system criterion with
      | nil => exact absurd held nonempty
      | cons value more => simp [spelled, mapped, held]

theorem toList_conditionText :
    (CatalogQuery.conditionText e (c.clauses f system)).toList = c.spelledCondition e f system := by
  have texts := c.toList_texts e f system 1 Criterion.all
  rw [← clauses_eq] at texts
  unfold CatalogQuery.conditionText spelledCondition
  rw [← texts]
  cases c.clauses f system with
  | nil => rfl
  | cons clause later =>
    rw [List.isEmpty_cons, if_neg (by simp), String.toList_append, String.toList_intercalate]
    rfl

end FilterColumns

/-! ## Placeholders of a statement -/

namespace CatalogQuery

/-- No text of the query has the mark of a placeholder. -/
structure Unmarked (q : CatalogQuery) (e : Engine) : Prop where
  text : e.mark ∉ q.text.toList
  columns : ∀ criterion column, q.columns.column? criterion = some column → e.mark ∉ column.toList
  order : e.mark ∉ q.order.toList

/-- The queries for the kinds of rows have no mark but in their own texts. -/
theorem unmarked_query (e : Engine) (k : Kind) {text : String} (h : e.mark ∉ text.toList) :
    (k.query text).Unmarked e where
  text := h
  columns criterion column mapped marked :=
    absurd (Kind.isColumnChar_of_column? mapped _ marked) e.not_isColumnChar_mark
  order := by
    have separator : e.mark ∉ ", ".toList := by cases e <;> decide
    have qualifier : e.mark ∉ "q.".toList := by cases e <;> decide
    show e.mark ∉ (", ".intercalate (k.orderColumns.map ("q." ++ ·))).toList
    rw [String.toList_intercalate, List.map_map]
    refine Clause.not_mem_intercalate separator fun item listed => ?_
    obtain ⟨column, ordered, rfl⟩ := List.mem_map.1 listed
    simp only [Function.comp_apply, String.toList_append, List.mem_append, not_or]
    refine ⟨qualifier, fun marked => ?_⟩
    exact absurd (Kind.isColumnChar_of_mem_orderColumns ordered _ marked) e.not_isColumnChar_mark

section

variable {q : CatalogQuery} {e : Engine} (f : Filter) (system : List String)

theorem Unmarked.opening (h : q.Unmarked e) : e.mark ∉ q.opening.toList := by
  have trimmed : e.mark ∉ (Text.trim q.text).toList := by
    obtain ⟨front, back, whole, -, -⟩ := Text.trimOf_append q.text.toList
    intro marked
    rw [Text.trim, String.toList_ofList] at marked
    refine h.text ?_
    rw [whole]
    exact List.mem_append_left _ (List.mem_append_right _ marked)
  have before : e.mark ∉ "SELECT * FROM (".toList := by cases e <;> decide
  have after : e.mark ∉ ") AS q".toList := by cases e <;> decide
  unfold CatalogQuery.opening
  simp only [String.toList_append, List.mem_append, not_or]
  exact ⟨⟨before, trimmed⟩, after⟩

theorem Unmarked.ordering (h : q.Unmarked e) : e.mark ∉ q.ordering.toList := by
  have before : e.mark ∉ " ORDER BY ".toList := by cases e <;> decide
  unfold CatalogQuery.ordering
  split
  · simp
  · rw [String.toList_append, List.mem_append, not_or]
    exact ⟨before, h.order⟩

theorem parts_ordering (q : CatalogQuery) : Parts q.ordering.toList := by
  unfold CatalogQuery.ordering
  split
  · exact nofun
  · intro c h
    rw [String.toList_append] at h
    cases h
    rfl

theorem Unmarked.columns_clauses (h : q.Unmarked e) :
    ∀ clause ∈ q.columns.clauses f system, e.mark ∉ clause.column.toList := by
  intro clause listed
  obtain ⟨criterion, made⟩ := FilterColumns.mem_clauses_iff.1 listed
  exact h.columns criterion _ (FilterColumns.column?_of_clause? made)

/-- The text of a statement around one of its clauses: what comes before has the placeholders of the
values before, and the placeholders go on after the clause where its own stop. -/
theorem Unmarked.text_around (h : q.Unmarked e) {earlier later : List Clause} {clause : Clause}
    (listed : q.columns.clauses f system = earlier ++ clause :: later) :
    let n := (earlier.flatMap Clause.binds).length
    ∃ left right, (q.statement e f system).text.toList =
        left ++ (clause.text e (1 + n)).toList ++ right ∧
      e.Numbered 1 n left ∧
      e.Numbered (1 + n + clause.binds.length) (later.flatMap Clause.binds).length right ∧
      Parts right := by
  intro n
  have plain := h.columns_clauses f system
  rw [listed] at plain
  have front : ∀ clause ∈ earlier, e.mark ∉ clause.column.toList := fun other hx =>
    plain other (List.mem_append_left _ hx)
  have back : ∀ clause ∈ later, e.mark ∉ clause.column.toList := fun other hx =>
    plain other (List.mem_append_right _ (List.mem_cons_of_mem _ hx))
  have condition : e.mark ∉ " WHERE ".toList := by cases e <;> decide
  refine ⟨q.opening.toList ++ (" WHERE ".toList ++ Clause.leading e 1 earlier),
    Clause.trailing e (1 + n + clause.binds.length) later ++ q.ordering.toList, ?_, ?_, ?_, ?_⟩
  · rw [text_statement, listed, String.toList_append, String.toList_append,
      Clause.toList_conditionText]
    simp only [List.append_assoc, n]
  · exact ((Clause.numbered_leading front 1).before condition).before h.opening
  · exact (Clause.numbered_trailing back _).after h.ordering q.parts_ordering
  · exact (Clause.parts_trailing _ _).append q.parts_ordering

theorem Unmarked.placeholdersIn_text (h : q.Unmarked e) :
    e.placeholdersIn (q.statement e f system).text.toList =
      e.placeholderList 1 (q.statement e f system).binds.length := by
  show _ = e.placeholderList 1 ((q.columns.clauses f system).flatMap Clause.binds).length
  cases listed : q.columns.clauses f system with
  | nil =>
    rw [text_statement, listed, String.toList_append, String.toList_append, List.append_assoc]
    refine Engine.Numbered.placeholdersIn_eq (Engine.Numbered.before h.opening ?_)
    exact numbered_of_unmarked h.ordering 1
  | cons clause later =>
    have first : q.columns.clauses f system = [] ++ clause :: later := listed
    obtain ⟨left, right, text, before, after, parts⟩ := h.text_around f system first
    have plain := h.columns_clauses f system clause (listed ▸ List.mem_cons_self)
    have front := before.append (Clause.numbered_text plain _) (Clause.parts_text clause _)
    rw [Nat.add_assoc] at after
    rw [text, (front.append after parts).placeholdersIn_eq, List.flatMap_cons, List.length_append,
      List.flatMap_nil, List.length_nil, Nat.zero_add]

/-- The placeholders of a statement are those of its bound values, in their order; the values are
bound criterion by criterion, those of the types in ascending order, and each value has its
placeholder in the clause of its criterion, as many places after the first one there as it comes
after the first value of the criterion. A criterion without a column or without values has neither a
clause nor a bound value. -/
theorem statement_aligned (q : CatalogQuery) (e : Engine) (f : Filter) (system : List String)
    (unmarked : q.Unmarked e) :
    let st := q.statement e f system
    e.placeholdersIn st.text.toList =
        (List.range' 1 st.binds.length).map (fun i =>
          match e with
          | .postgres => '$' :: Nat.toDigits 10 i
          | .mysql | .sqlite => ['?']) ∧
      st.binds = Criterion.all.flatMap (q.columns.bound f system) ∧
      f.types.names.Pairwise (· < ·) ∧
      (∀ i value, st.binds[i]? = some value →
        ∃ criterion column left right n,
          let values := f.values system criterion
          let clause := criterion.spelled e (1 + n) values.length column
          q.columns.column? criterion = some column ∧
          st.text.toList = left ++ clause ++ right ∧
          e.placeholdersIn left = e.placeholderList 1 n ∧
          e.placeholdersIn clause = e.placeholderList (1 + n) values.length ∧
          n ≤ i ∧ values[i - n]? = some value) ∧
      st.text.toList = "SELECT * FROM (".toList ++ (Text.trim q.text).toList ++ ") AS q".toList ++
        q.columns.spelledCondition e f system ++
        (if q.order = "" then [] else " ORDER BY ".toList ++ q.order.toList) ∧
      ∀ criterion, q.columns.column? criterion = none ∨ f.values system criterion = [] →
        q.columns.bound f system criterion = [] ∧
          ∀ n rest, q.columns.spelled e f system n (criterion :: rest) =
            q.columns.spelled e f system n rest := by
  intro st
  refine ⟨?_, q.columns.binds_clauses f system, f.types.sorted,
    fun i value bound => ?_, ?_, fun criterion idle =>
      ⟨FilterColumns.bound_eq_nil idle, fun n rest => ?_⟩⟩
  · rw [unmarked.placeholdersIn_text f system]
    cases e <;> rfl
  · obtain ⟨earlier, clause, later, j, listed, rfl, place⟩ := Clause.exists_clause_of_bound bound
    obtain ⟨left, right, text, before, -, -⟩ := unmarked.text_around f system listed
    have member : clause ∈ q.columns.clauses f system := by
      rw [listed]
      exact List.mem_append_right _ List.mem_cons_self
    have plain := unmarked.columns_clauses f system clause member
    obtain ⟨criterion, made⟩ := FilterColumns.mem_clauses_iff.1 member
    have values := FilterColumns.binds_of_clause? made
    have spelled := FilterColumns.toList_text_of_clause? (e := e) made
    refine ⟨criterion, clause.column, left, right, (earlier.flatMap Clause.binds).length,
      FilterColumns.column?_of_clause? made, ?_, before.placeholdersIn_eq, ?_,
      Nat.le_add_right _ _, ?_⟩
    · rw [← spelled]
      exact text
    · rw [← spelled, ← values]
      exact (Clause.numbered_text plain _).placeholdersIn_eq
    · rw [← values, Nat.add_sub_cancel_left]
      exact place
  · have order : q.ordering.toList =
        if q.order = "" then [] else " ORDER BY ".toList ++ q.order.toList := by
      unfold CatalogQuery.ordering
      by_cases empty : q.order = "" <;> simp [empty]
    show (q.statement e f system).text.toList = _
    rw [text_statement, ← FilterColumns.toList_conditionText, ← order, CatalogQuery.opening]
    simp only [String.toList_append]
  · rcases idle with unmapped | empty
    · simp [FilterColumns.spelled, unmapped]
    · simp [FilterColumns.spelled, empty]

/-- A name, two types and two system schemas. -/
theorem statement_aligned_tables :
    let q := Kind.query .tables "SELECT * FROM relations"
    let f : Filter := { name := "hits%", types := ⟨["TABLE", "VIEW"], by decide⟩ }
    let st := q.statement .postgres f ["pg_catalog", "pg_toast"]
    q.Unmarked .postgres ∧
      st.binds = ["hits%", "TABLE", "VIEW", "pg_catalog", "pg_toast"] ∧
      Engine.placeholdersIn .postgres st.text.toList =
        [['$', '1'], ['$', '2'], ['$', '3'], ['$', '4'], ['$', '5']] := by
  intro q f st
  have unmarked : q.Unmarked .postgres := unmarked_query .postgres .tables (by decide)
  exact ⟨unmarked, rfl, (statement_aligned q .postgres f ["pg_catalog", "pg_toast"] unmarked).1⟩

end

end CatalogQuery

end CatalogReport
