import CatalogReport.Json.Codec
import CatalogReport.Text.Quoted

/-!
# Failures

Why a command did not finish. A failure that happened on the way carries the contexts it passed
through, the outermost first; `message` is its text and `causes` are the texts of what lies beneath.
-/

namespace CatalogReport

inductive Failure where
  /-- The catalog cannot answer what the command is about. -/
  | capabilityAbsent (command driver : String)
  /-- A query that this catalog does not serve. -/
  | notSupported
  /-- Another failure, met while doing what the context says. -/
  | queryFailed (context : String) (cause : Failure)
  /-- What the database driver reports. -/
  | driver (text : String)
  | badPattern (pattern reason : String)
  | invalidOption (key value : String)
  /-- A file or an output that refused. -/
  | output (text : String)
  | snapshot (cause : Misread)
  deriving DecidableEq, Repr

def Misread.message : Misread → String
  | .cut => "unexpected end of text"
  | .malformed => "text is not JSON"
  | .mismatched => "value has the wrong shape"

namespace Failure

/-- The text of a failure; a context comes before the text of its cause. -/
def message : Failure → String
  | .capabilityAbsent command name => command ++ " not supported by " ++ name ++ " driver"
  | .notSupported => "not supported"
  | .queryFailed context cause => context ++ ": " ++ cause.message
  | .driver text => text
  | .badPattern pattern reason =>
    "failed to parse search pattern " ++ Text.quoted pattern ++ ": " ++ reason
  | .invalidOption key value =>
    "invalid value " ++ Text.quoted value ++ " for rendering option " ++ Text.quoted key
  | .output text => "failed to write output: " ++ text
  | .snapshot cause => "failed to load catalog snapshot: " ++ cause.message

/-- The texts of the causes beneath a failure, the nearest first. -/
def causes : Failure → List String
  | .queryFailed _ cause => cause.message :: cause.causes
  | .output text => [text]
  | .snapshot cause => [cause.message]
  | _ => []

/-- The failure met while doing what the context says. -/
def within (failure : Failure) (context : String) : Failure :=
  .queryFailed context failure

/-- The answer of a query that is not served; a context around it makes it a failure like others. -/
def isNotSupported : Failure → Bool
  | .notSupported => true
  | _ => false

/-- A failure and all its causes in one line. -/
def line (failure : Failure) : String :=
  ": ".intercalate (failure.message :: failure.causes)

end Failure

end CatalogReport
