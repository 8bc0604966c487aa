import CatalogReport.Catalog.Kind
import CatalogReport.Text.Quoted

/-!
# Capabilities

The kinds of rows that a reader can list.
-/

namespace CatalogReport

/-- A set of kinds. -/
structure Capabilities where
  has : Kind → Bool

namespace Capabilities

def none : Capabilities := ⟨fun _ => false⟩

def all : Capabilities := ⟨fun _ => true⟩

def «with» (c : Capabilities) (k : Kind) : Capabilities :=
  ⟨fun k' => k' == k || c.has k'⟩

def without (c : Capabilities) (k : Kind) : Capabilities :=
  ⟨fun k' => k' != k && c.has k'⟩

def ofList (kinds : List Kind) : Capabilities :=
  ⟨fun k => kinds.contains k⟩

/-- The kinds of the first set that are not in the second. -/
def diff (c d : Capabilities) : Capabilities :=
  ⟨fun k => c.has k && !d.has k⟩

def toList (c : Capabilities) : List Kind :=
  Kind.all.filter c.has

def isEmpty (c : Capabilities) : Bool :=
  c.toList.isEmpty

theorem mem_toList {c : Capabilities} {k : Kind} : k ∈ c.toList ↔ c.has k = true := by
  simp [toList, Kind.mem_all]

theorem ext_toList {c d : Capabilities} (h : c.toList = d.toList) : c = d := by
  cases c with | mk f => cases d with | mk g =>
  congr
  funext k
  rw [Bool.eq_iff_iff, ← mem_toList (c := ⟨f⟩), ← mem_toList (c := ⟨g⟩), h]

instance : DecidableEq Capabilities := fun c d =>
  if h : c.toList = d.toList then isTrue (ext_toList h) else isFalse fun e => h (e ▸ rfl)

/-- The summary of a set. -/
def summary (c : Capabilities) : String :=
  Text.braced (c.toList.map Kind.label)

end Capabilities

end CatalogReport
