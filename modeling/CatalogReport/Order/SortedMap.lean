/-!
# Maps in the order of their keys

A map is the list of its entries, smallest key first. `put` keeps the order and replaces the entry
of its key (`lookup_put`).
-/

namespace CatalogReport

/-- The entries of a map, smallest key first. -/
abbrev SortedMap (κ ν : Type) := List (κ × ν)

namespace SortedMap

variable {κ ν : Type} [LT κ] [DecidableLT κ] [DecidableEq κ]

/-- The map with this value for the key. -/
def put (key : κ) (value : ν) : SortedMap κ ν → SortedMap κ ν
  | [] => [(key, value)]
  | (k, v) :: rest =>
    if key = k then (key, value) :: rest
    else if key < k then (key, value) :: (k, v) :: rest
    else (k, v) :: put key value rest

/-- The map of these entries; of two with one key the later counts. -/
def ofList (entries : List (κ × ν)) : SortedMap κ ν :=
  entries.foldl (fun map entry => put entry.1 entry.2 map) []

omit [LT κ] [DecidableLT κ] in
theorem lookup_cons_ite (map : SortedMap κ ν) (k k' : κ) (v : ν) :
    List.lookup k ((k', v) :: map) = if k = k' then some v else List.lookup k map := by
  rw [List.lookup_cons]
  by_cases h : k = k' <;> simp [h, beq_eq_false_iff_ne.2]

theorem lookup_put (map : SortedMap κ ν) (key k : κ) (value : ν) :
    (put key value map).lookup k = if k = key then some value else map.lookup k := by
  induction map with
  | nil => simp [put, lookup_cons_ite]
  | cons entry rest ih =>
    obtain ⟨k', v'⟩ := entry
    unfold put
    split
    · rename_i hk
      subst hk
      simp only [lookup_cons_ite]
      split <;> rfl
    · rename_i hk
      split
      · simp only [lookup_cons_ite]
      · simp only [lookup_cons_ite, ih]
        split
        · rename_i h
          subst h
          rw [if_neg (Ne.symm hk)]
        · rfl

end SortedMap

end CatalogReport
