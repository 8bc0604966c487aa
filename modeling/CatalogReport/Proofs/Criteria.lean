import CatalogReport.Live.Mapping

/-!
# The criteria of a statement

A filter narrows by its patterns, by its types and by the system schemas that it leaves out. Each of
these criteria makes at most one clause of a statement (`clauses_eq`): none when the query has no
column for it or when it holds no value (`clause?_eq_none_iff`), and otherwise one on its column
that binds its values (`clause?_eq_some_iff`, `binds_of_clause?`).
-/

namespace CatalogReport

inductive Criterion where
  | pattern (a : Attribute)
  | types
  | system
  deriving DecidableEq, Repr

namespace Criterion

def all : List Criterion :=
  [.pattern .catalog, .pattern .schema, .pattern .parent, .pattern .reference, .pattern .name,
    .types, .system]

theorem all_eq : all = Attribute.all.map .pattern ++ [.types, .system] :=
  rfl

theorem mem_all (criterion : Criterion) : criterion ∈ all := by
  cases criterion with
  | pattern a => cases a <;> simp [all]
  | types | system => simp [all]

def clause (column : String) (values : List String) : Criterion → Clause
  | .pattern _ => .like column (values.headD "")
  | .types => .among column values
  | .system => .outside column values

@[simp] theorem column_clause (criterion : Criterion) (column : String) (values : List String) :
    (criterion.clause column values).column = column := by
  cases criterion <;> rfl

end Criterion

/-- The values of a criterion; none for a pattern that is empty, and none for the system schemas
when their rows are wanted. -/
def Filter.values (f : Filter) (system : List String) : Criterion → List String
  | .pattern .catalog => if f.catalog.isEmpty then [] else [f.catalog]
  | .pattern .schema => if f.schema.isEmpty then [] else [f.schema]
  | .pattern .parent => if f.parent.isEmpty then [] else [f.parent]
  | .pattern .reference => if f.reference.isEmpty then [] else [f.reference]
  | .pattern .name => if f.name.isEmpty then [] else [f.name]
  | .types => f.types.names
  | .system => if f.withSystem then [] else system

theorem Filter.values_pattern (f : Filter) (system : List String) (a : Attribute) :
    f.values system (.pattern a) = if (f.pattern a).isEmpty then [] else [f.pattern a] := by
  cases a <;> rfl

namespace FilterColumns

variable (c : FilterColumns) (f : Filter) (system : List String)

def column? : Criterion → Option String
  | .pattern a => c.governed a
  | .types => c.type
  | .system => c.system

def clause? (criterion : Criterion) : Option Clause :=
  match c.column? criterion, f.values system criterion with
  | some column, value :: more => some (criterion.clause column (value :: more))
  | _, _ => none

/-- The values that a criterion has bound. -/
def bound (criterion : Criterion) : List String :=
  if (c.column? criterion).isSome then f.values system criterion else []

theorem clause?_pattern (a : Attribute) :
    c.clause? f system (.pattern a) =
      match c.governed a with
      | some column => if (f.pattern a).isEmpty then none else some (.like column (f.pattern a))
      | none => none := by
  simp only [clause?, column?, Filter.values_pattern]
  cases c.governed a with
  | none => rfl
  | some column => cases (f.pattern a).isEmpty <;> rfl

theorem clause?_types :
    (c.clause? f system .types).toList =
      match c.type with
      | some column => if f.types.isEmpty then [] else [.among column f.types.names]
      | none => [] := by
  unfold clause? column? Filter.values NameSet.isEmpty
  cases c.type with
  | none => rfl
  | some column => cases f.types.names <;> rfl

theorem clause?_system :
    (c.clause? f system .system).toList =
      match c.system with
      | some column => if f.withSystem || system.isEmpty then [] else [.outside column system]
      | none => [] := by
  unfold clause? column? Filter.values
  cases c.system with
  | none => rfl
  | some column => cases f.withSystem <;> cases system <;> rfl

theorem clauses_eq : c.clauses f system = Criterion.all.filterMap (c.clause? f system) := by
  have last (x y : Criterion) : [x, y].filterMap (c.clause? f system) =
      (c.clause? f system x).toList ++ (c.clause? f system y).toList := by
    cases hx : c.clause? f system x <;> cases hy : c.clause? f system y <;>
      simp [List.filterMap, hx, hy]
  rw [Criterion.all_eq, List.filterMap_append, last, clause?_types, clause?_system,
    List.filterMap_map, ← List.append_assoc]
  unfold clauses
  congr 2
  exact congrArg (List.filterMap · _) (funext fun a => (c.clause?_pattern f system a).symm)

variable {c f system}

theorem clause?_eq_some_iff {criterion : Criterion} {clause : Clause} :
    c.clause? f system criterion = some clause ↔
      ∃ column, c.column? criterion = some column ∧ f.values system criterion ≠ [] ∧
        clause = criterion.clause column (f.values system criterion) := by
  unfold clause?
  cases c.column? criterion <;> cases f.values system criterion <;> simp [eq_comm]

theorem clause?_eq_none_iff {criterion : Criterion} :
    c.clause? f system criterion = none ↔
      c.column? criterion = none ∨ f.values system criterion = [] := by
  unfold clause?
  cases c.column? criterion <;> cases f.values system criterion <;> simp

theorem mem_clauses_iff {clause : Clause} :
    clause ∈ c.clauses f system ↔ ∃ criterion, c.clause? f system criterion = some clause := by
  rw [clauses_eq, List.mem_filterMap]
  exact ⟨fun ⟨criterion, _, made⟩ => ⟨criterion, made⟩,
    fun ⟨criterion, made⟩ => ⟨criterion, criterion.mem_all, made⟩⟩

theorem column?_of_clause? {criterion : Criterion} {clause : Clause}
    (h : c.clause? f system criterion = some clause) :
    c.column? criterion = some clause.column := by
  obtain ⟨column, mapped, -, rfl⟩ := clause?_eq_some_iff.1 h
  rw [mapped, Criterion.column_clause]

theorem binds_of_clause? {criterion : Criterion} {clause : Clause}
    (h : c.clause? f system criterion = some clause) :
    clause.binds = f.values system criterion := by
  obtain ⟨column, -, nonempty, rfl⟩ := clause?_eq_some_iff.1 h
  cases criterion with
  | pattern a =>
    simp only [Filter.values_pattern] at nonempty ⊢
    cases empty : (f.pattern a).isEmpty with
    | true => simp [empty] at nonempty
    | false => rfl
  | types => rfl
  | system => rfl

theorem binds_ne_nil {clause : Clause} (h : clause ∈ c.clauses f system) : clause.binds ≠ [] := by
  obtain ⟨criterion, made⟩ := mem_clauses_iff.1 h
  rw [binds_of_clause? made]
  obtain ⟨-, -, nonempty, -⟩ := clause?_eq_some_iff.1 made
  exact nonempty

theorem bound_eq_nil {criterion : Criterion}
    (idle : c.column? criterion = none ∨ f.values system criterion = []) :
    c.bound f system criterion = [] := by
  unfold bound
  rcases idle with unmapped | empty
  · simp [unmapped]
  · simp [empty]

variable (c f system)

theorem binds_clauses :
    (c.clauses f system).flatMap Clause.binds = Criterion.all.flatMap (c.bound f system) := by
  rw [clauses_eq]
  induction Criterion.all with
  | nil => rfl
  | cons criterion criteria ih =>
    rw [List.flatMap_cons, ← ih]
    cases made : c.clause? f system criterion with
    | none =>
      rw [List.filterMap_cons_none made, bound_eq_nil (clause?_eq_none_iff.1 made), List.nil_append]
    | some clause =>
      have values : c.bound f system criterion = clause.binds := by
        rw [bound, column?_of_clause? made, binds_of_clause? made]
        rfl
      rw [List.filterMap_cons_some made, List.flatMap_cons, values]

end FilterColumns

/-! ## Names of columns -/

namespace Kind

def isColumnChar (c : Char) : Bool :=
  c.isLower || c == '_'

theorem isColumnChar_of_column? {k : Kind} {criterion : Criterion} {column : String}
    (h : k.filterColumns.column? criterion = some column) :
    ∀ c ∈ column.toList, isColumnChar c = true := by
  have spelled : Criterion.all.all (fun criterion =>
      (k.filterColumns.column? criterion).all fun column =>
        column.toList.all isColumnChar) = true := by
    cases k <;> decide
  have here := List.all_eq_true.1 spelled criterion criterion.mem_all
  rw [h] at here
  exact List.all_eq_true.1 here

theorem isColumnChar_of_mem_orderColumns {k : Kind} {column : String}
    (h : column ∈ k.orderColumns) : ∀ c ∈ column.toList, isColumnChar c = true := by
  have spelled : k.orderColumns.all (fun column => column.toList.all isColumnChar) = true := by
    cases k <;> decide
  exact List.all_eq_true.1 (List.all_eq_true.1 spelled column h)

end Kind

end CatalogReport
