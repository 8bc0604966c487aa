/-!
# Search patterns

A pattern names objects, and a schema before its first point. A star in it stands for any run of
characters; nothing else is special. The two parts are LIKE patterns.
-/

namespace CatalogReport

structure Pattern where
  /-- Empty when the pattern has no point. -/
  schema : String
  name : String
  deriving DecidableEq, Repr

namespace Pattern

/-- A part of a pattern with its stars as LIKE spells them. -/
def expand (part : List Char) : String :=
  String.ofList (part.map fun c => if c == '*' then '%' else c)

def parseOf (cs : List Char) : Pattern :=
  match cs.dropWhile (· != '.') with
  | [] => ⟨"", expand cs⟩
  | _ :: name => ⟨expand (cs.takeWhile (· != '.')), expand name⟩

def parse (pattern : String) : Pattern :=
  parseOf pattern.toList

end Pattern

/-- A name for a title, with its schema if there is one. -/
def qualifiedName (schema name : String) : String :=
  if schema.isEmpty then "\"" ++ name ++ "\"" else "\"" ++ schema ++ "." ++ name ++ "\""

end CatalogReport
