import CatalogReport.Shell.Host
import CatalogReport.Shell.Session

/-!
# Runs

A run of the program: what it does on a host, and the code that it ends with.
-/

namespace CatalogReport

namespace Run

/-- The command did what it should. -/
def success : Nat := 0

/-- The command failed. -/
def failed : Nat := 1

/-- The arguments are wrong. -/
def usage : Nat := 2

/-- No session could be opened. -/
def noSession : Nat := 66

/-- A line that reports an error. -/
def errorLine (text : String) : String :=
  "metascope: error: " ++ text ++ "\n"

/-- What the program says about itself. -/
def versionText : String := "metascope 0.1.0\n"

def helpText : String :=
  "Describe database catalogs with backslash commands\n\n" ++
    "Usage: metascope [OPTIONS] <COMMAND>...\n"

/-- What is reported when the output file cannot be made. -/
def outputError (path : String) (e : FileError) : String :=
  "failed to create output file " ++ path ++ ": " ++ e.message

end Run

/-- The code that a run with these arguments ends with. -/
def UsageError.code : UsageError → Nat
  | .help | .version => Run.success
  | _ => Run.usage

namespace Run

/-- The end of a command. -/
def closing (result : Except Failure Unit) : Nat × String :=
  match result with
  | .ok () => (success, "")
  | .error failure => (failed, errorLine failure.line)

/-- How many bytes of text are held back before any is written. -/
def bufferSize : Nat := 8192

/-- The end of a command whose text cannot be written, given how it goes while its text is held
back. If the text outgrows that, the command fails there; otherwise the end of the command comes
first, and then what is held back. -/
def closingUnwritten (held : Performance) (e : FileError) : Nat × String :=
  match held.result with
  | .ok () => (failed, errorLine (Failure.output e.message).message)
  | .error failure => closing (.error failure)

/-! ## The program -/

section Host

variable {m : Type → Type} [Monad m] {τ : Type} [Host m τ]

/-- Logs an event if the environment asks for it or, where that says nothing, `--debug` does. -/
def log (a : Arguments) (event : Event) : m Unit := do
  let logged ← Host.logged
  if logged.elim a.debug (· event) then Host.note event

/-- Ends with a code after a text on the stream of the errors. -/
def finish (code : Nat) (err : String) : m Nat := do
  Host.report err
  pure code

/-- What the text of a command goes to: the output file, which is made for it, or else `stdout`. -/
def target (output : Option String) : m (Except String τ) :=
  match output with
  | none => do pure (.ok (← Host.stdout))
  | some path => do pure ((← Host.create path).mapError (outputError path))

/-- Runs the command of a session. The text of a command that fails halfway is kept. -/
def onSession (a : Arguments) (session : Session) : m Nat := do
  match ← target a.output with
  | .error message => finish failed (errorLine message)
  | .ok target =>
    log a (.executing session.command.name)
    let files ← Host.files a.catalogPaths
    let encoder := Session.encoderFor a (← Host.isTerminal)
    let whole := session.perform files encoder {}
    (session.catalog.leftovers files).forM Host.remove
    match ← Host.write target whole.text with
    | .ok () =>
      whole.queries.forM fun query => log a (.query query.1 query.2)
      let (code, err) := closing whole.result
      finish code err
    | .error e =>
      let held := session.perform files encoder { limit := some bufferSize, refusal := e.message }
      held.queries.forM fun query => log a (.query query.1 query.2)
      let (code, err) := closingUnwritten held e
      finish code err

/-- Makes the changes to files that opening a catalog makes. -/
def change (changes : Sqlite.Changes) : m (Except FileError Unit) := do
  changes.removed.forM Host.remove
  match changes.made with
  | none => pure (.ok ())
  | some path => do pure ((← Host.create path).map fun _ => ())

/-- Runs the program with parsed arguments. -/
def onArguments (a : Arguments) : m Nat := do
  let files ← Host.files a.catalogPaths
  match Session.ofArguments a files with
  | .error e => finish noSession (errorLine e.line)
  | .ok session =>
    match ← change session.changes with
    | .error _ => finish noSession (errorLine (SetupError.noConnection Sqlite.noFile).line)
    | .ok () =>
      log a (.catalogReady session.catalog.driver (session.catalog.offers files))
      onSession a session

/-- Answers arguments that are not run as a command. -/
def onUsageError (e : UsageError) : m Nat := do
  match e with
  | .help => let _ ← Host.write (← Host.stdout) helpText
  | .version => let _ ← Host.write (← Host.stdout) versionText
  | _ => Host.report (errorLine "wrong arguments")
  pure e.code

/-- Runs the program with the words after its name. -/
def onWords (words : List String) : m Nat :=
  match Arguments.ofWords words with
  | .error e => onUsageError e
  | .ok a => onArguments a

end Host

end Run

/-! ## Simulated runs -/

/-- What a simulated run leaves behind, and its code. -/
structure Outcome (σ : Type) extends World σ where
  code : Nat
  deriving DecidableEq

/-- Runs the program on a simulated host. -/
def Run.ofWords {σ : Type} [FileSystem σ] (folder : σ) (words : List String)
    (around : Surroundings := {}) : Outcome σ :=
  let (code, world) := (onWords words : Simulated σ Nat) around { folder := folder }
  { world with code := code }

end CatalogReport
