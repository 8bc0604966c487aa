import CatalogReport.Order.NameSet
import CatalogReport.Text.Like

/-!
# Database engines

The engines whose catalogs can be read, and what sets them apart.
-/

namespace CatalogReport

inductive Engine where
  | postgres
  | mysql
  | sqlite
  deriving DecidableEq, Repr

namespace Engine

def all : List Engine := [.postgres, .mysql, .sqlite]

/-- The name of an engine's driver. -/
def driver : Engine → String
  | .postgres => "postgres"
  | .mysql => "mysql"
  | .sqlite => "sqlite"

def ofDriver? (name : String) : Option Engine :=
  all.find? fun e => e.driver == name

/-- What the addresses of an engine's databases begin with. -/
def schemes : Engine → List String
  | .postgres => ["postgres://", "postgresql://"]
  | .mysql => ["mysql://", "mariadb://"]
  | .sqlite => ["sqlite:"]

/-- The engine of the database at an address. -/
def ofUrl? (url : String) : Option Engine :=
  all.find? fun e => e.schemes.any fun scheme => scheme.toList.isPrefixOf url.toList

/-- The schemas that belong to the engine itself. -/
def systemSchemas : Engine → List String
  | .postgres => ["pg_catalog", "information_schema", "pg_toast"]
  | .mysql => ["mysql", "performance_schema", "sys", "information_schema"]
  | .sqlite => []

/-- What stands in a statement for its `n`th bound value, counted from one. -/
def placeholder (e : Engine) (n : Nat) : String :=
  match e with
  | .postgres => "$" ++ String.ofList (Nat.toDigits 10 n)
  | .mysql | .sqlite => "?"

end Engine

end CatalogReport
