/-!
# Sets of names

A set is the list of its names in strictly ascending order, so two sets with the same names are
equal and a set is listed in one order only.
-/

namespace CatalogReport

structure NameSet where
  names : List String
  sorted : names.Pairwise (· < ·) := by decide

namespace NameSet

instance : DecidableEq NameSet := fun a b =>
  if h : a.names = b.names then
    isTrue (by cases a; cases b; cases h; rfl)
  else isFalse fun e => h (e ▸ rfl)

instance : Repr NameSet where
  reprPrec s n := reprPrec s.names n

def empty : NameSet where
  names := []
  sorted := .nil

instance : Inhabited NameSet := ⟨empty⟩

def contains (s : NameSet) (name : String) : Bool :=
  s.names.contains name

def isEmpty (s : NameSet) : Bool :=
  s.names.isEmpty

/-- Puts a name into ascending names. -/
def insertInto (name : String) : List String → List String
  | [] => [name]
  | n :: rest =>
    if name < n then name :: n :: rest
    else if name = n then n :: rest
    else n :: insertInto name rest

theorem mem_insertInto {name n : String} {names : List String} :
    n ∈ insertInto name names ↔ n = name ∨ n ∈ names := by
  induction names with
  | nil => simp [insertInto]
  | cons m rest ih =>
    unfold insertInto
    split
    · simp
    · split
      · rename_i e
        subst e
        simp
      · simp only [List.mem_cons, ih]
        exact or_left_comm

theorem insertInto_sorted {name : String} {names : List String} (h : names.Pairwise (· < ·)) :
    (insertInto name names).Pairwise (· < ·) := by
  induction names with
  | nil => simp [insertInto]
  | cons m rest ih =>
    unfold insertInto
    rw [List.pairwise_cons] at h
    split
    · rename_i hlt
      refine .cons (fun n hn => ?_) (List.pairwise_cons.2 h)
      rcases List.mem_cons.1 hn with rfl | hn
      · exact hlt
      · exact String.lt_trans hlt (h.1 n hn)
    · split
      · exact List.pairwise_cons.2 h
      · rename_i hlt hne
        refine .cons (fun n hn => ?_) (ih h.2)
        rcases mem_insertInto.1 hn with rfl | hn
        · by_cases hmn : m < n
          · exact hmn
          · exact absurd (String.le_antisymm (String.not_lt.1 hmn) (String.not_lt.1 hlt)) hne
        · exact h.1 n hn

def insert (s : NameSet) (name : String) : NameSet where
  names := insertInto name s.names
  sorted := insertInto_sorted s.sorted

def ofList (names : List String) : NameSet :=
  names.foldl insert empty

/-! ## Members -/

theorem contains_iff {s : NameSet} {name : String} : s.contains name = true ↔ name ∈ s.names := by
  simp [contains]

theorem mem_foldl_insert {s : NameSet} {names : List String} {name : String} :
    name ∈ (names.foldl insert s).names ↔ name ∈ s.names ∨ name ∈ names := by
  induction names generalizing s with
  | nil => simp
  | cons n rest ih =>
    simp only [List.foldl_cons, ih, insert, mem_insertInto, List.mem_cons]
    constructor
    · rintro ((h | h) | h)
      · exact .inr (.inl h)
      · exact .inl h
      · exact .inr (.inr h)
    · rintro (h | h | h)
      · exact .inl (.inr h)
      · exact .inl (.inl h)
      · exact .inr h

theorem mem_ofList {names : List String} {name : String} :
    name ∈ (ofList names).names ↔ name ∈ names := by
  simp [ofList, mem_foldl_insert, empty]

end NameSet

end CatalogReport
