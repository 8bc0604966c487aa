import CatalogReport.Json.Codec
import CatalogReport.Report.Cell

/-!
# Entities

What the rows of a catalog have in common, whatever they describe: a noun, a JSON form, a default
listing, a schema to live in and a key that tells them apart.
-/

namespace CatalogReport

class Entity (α : Type) where
  /-- What one row is called. -/
  noun : String
  /-- The row with every field at its default. -/
  empty : α
  fields : List (Field α)
  /-- The headers of a listing that names no others. -/
  headers : List String
  /-- The cells under `headers`. -/
  cells : α → List Cell
  /-- The schema the row lives in; empty for a row outside all schemas. -/
  schema : α → String
  /-- What tells the row apart from the others of its kind. -/
  key : α → List String

namespace Entity

variable {α : Type} [Entity α]

def codec : Codec α :=
  .ofFields fields empty

/-- The JSON text of a row, without blanks. -/
def text (row : α) : String :=
  (codec.write row).write .compact

/-- The rows without those whose key an earlier row has. -/
def distinctFrom (seen : List (List String)) : List α → List α
  | [] => []
  | row :: rest =>
    if seen.contains (key row) then distinctFrom seen rest
    else row :: distinctFrom (key row :: seen) rest

/-- Of rows with one key, the first. -/
def distinct (rows : List α) : List α :=
  distinctFrom [] rows

/-! ## Distinct rows -/

theorem mem_of_mem_distinctFrom {seen : List (List String)} {rows : List α} {row : α}
    (h : row ∈ distinctFrom seen rows) : row ∈ rows ∧ key row ∉ seen := by
  induction rows generalizing seen with
  | nil => simp [distinctFrom] at h
  | cons first rest ih =>
    unfold distinctFrom at h
    split at h
    · exact ⟨List.mem_cons_of_mem _ (ih h).1, (ih h).2⟩
    · rename_i hseen
      rcases List.mem_cons.1 h with rfl | h
      · exact ⟨List.mem_cons_self, by simpa using hseen⟩
      · exact ⟨List.mem_cons_of_mem _ (ih h).1, fun hs => (ih h).2 (List.mem_cons_of_mem _ hs)⟩

theorem distinctFrom_sublist (seen : List (List String)) (rows : List α) :
    (distinctFrom seen rows).Sublist rows := by
  induction rows generalizing seen with
  | nil => exact .slnil
  | cons row rest ih =>
    unfold distinctFrom
    split
    · exact (ih _).cons row
    · exact (ih _).cons_cons row

end Entity

end CatalogReport
