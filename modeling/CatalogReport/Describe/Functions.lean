import CatalogReport.Describe.Describer

/-!
# Lists of functions

The arguments of a function are composed from its parameters where these are on offer; otherwise
they are shown as the engine reports them.
-/

namespace CatalogReport.Describer

variable (d : Describer)

/-- The arguments that parameters stand for; number zero is the result. -/
def argumentText (parameters : List FunctionColumn) : String :=
  ", ".intercalate
    ((parameters.filter fun c => c.ordinalPosition != 0).map FunctionColumn.signature)

/-- A filter for the parameters of a function. -/
def parametersOf (f : Function) : Filter :=
  { catalog := f.catalog, schema := f.schema, parent := f.specificName, withSystem := true }

/-- A function with its arguments composed from its parameters. -/
def withArguments (f : Function) : Dialogue Function := do
  match ← (d.optional .functionColumns (parametersOf f)).within
      ("failed to get columns of function " ++ f.schema ++ "." ++ f.specificName) with
  | some parameters => .done { f with argTypes := argumentText parameters }
  | none => .done f

def functionHeaders (verbose : Bool) : List String :=
  inDetail verbose ["Schema", "Name", "Result data type", "Argument data types", "Type"]
    ["Volatility", "Security", "Language", "Source code"]

def functionCells (verbose : Bool) (f : Function) : List Cell :=
  inDetail verbose [f.schema, f.name, f.resultType, f.argTypes, f.type]
    [f.volatility, f.security, f.language, f.source]

/-- Lists the functions of the types behind some letters. -/
def listFunctions (codes pattern : String) (verbose showSystem : Bool) : Dialogue Unit := do
  let filter :=
    { matching pattern showSystem with types := .ofList (d.config.functionTypes.typesFor codes) }
  let rows ← d.primary "\\df" .functions filter "failed to list functions"
  let rows ← (d.visible showSystem rows).mapM d.withArguments
  d.table "List of functions" (functionHeaders verbose) (rows.map (functionCells verbose))

end CatalogReport.Describer
