import CatalogReport.Catalog.Pattern
import CatalogReport.Order.NameSet

/-!
# Filters

What a query asks for. The five attributes of a filter are LIKE patterns, and an empty one asks for
nothing; a nonempty set of types asks for rows of these types.
-/

namespace CatalogReport

/-- What a row can be asked for by. -/
inductive Attribute where
  | catalog
  | schema
  /-- The object that owns the row, such as the table of a column. -/
  | parent
  /-- The object that the row refers to, such as the table of a foreign key. -/
  | reference
  | name
  deriving DecidableEq, Repr

def Attribute.all : List Attribute :=
  [.catalog, .schema, .parent, .reference, .name]

theorem Attribute.mem_all (a : Attribute) : a ∈ all := by
  cases a <;> simp [all]

structure Filter where
  catalog : String := ""
  schema : String := ""
  parent : String := ""
  reference : String := ""
  name : String := ""
  types : NameSet := .empty
  /-- Whether rows of system schemas are wanted, too. -/
  withSystem : Bool := false
  deriving DecidableEq, Repr

namespace Filter

/-- The pattern for an attribute. -/
def pattern (f : Filter) : Attribute → String
  | .catalog => f.catalog
  | .schema => f.schema
  | .parent => f.parent
  | .reference => f.reference
  | .name => f.name

def ofPattern (p : Pattern) : Filter where
  schema := p.schema
  name := p.name

def acceptsType (f : Filter) (type : String) : Bool :=
  f.types.isEmpty || f.types.contains type

end Filter

end CatalogReport
