import CatalogReport.Command.MetaCommand
import CatalogReport.Reader.Snapshot
import CatalogReport.Shell.Arguments
import CatalogReport.Shell.DatabaseFile

/-!
# Sessions

A session holds what a run needs before its command starts: the command, the options and the
catalog. What stands in the way of it is met in this order: the command, the form of the settings,
their values, the catalog. Only an open session writes anything.
-/

namespace CatalogReport

/-- Where rows come from. -/
inductive Catalog where
  | snapshot (s : Snapshot)
  | database (c : Sqlite.Connection)

/-- How a command went: its end, all that the sink took, and the queries of a snapshot on the
way. -/
structure Performance where
  result : Except Failure Unit
  text : String
  queries : List (Kind × Filter) := []

namespace Catalog

def driver : Catalog → String
  | .snapshot s => s.driverName
  | .database _ => Engine.sqlite.driver

/-- The kinds that can be listed. -/
def offers (c : Catalog) (files : Files) : Capabilities :=
  match c with
  | .snapshot _ => .all
  | .database c => (c.database files).reader.offers

/-- Holds a dialogue with a catalog. -/
def hold (c : Catalog) (files : Files) (config : Config) (encoder : Encoder) (sink : Sink)
    (dialogue : Describer → Dialogue Unit) : Performance :=
  match c with
  | .snapshot s =>
    let r := (s.reader .all .none).recording
    let (result, state, sink) := (dialogue (.ofReader r config)).run r encoder ([], []) sink
    ⟨result, sink.text, state.2.reverse⟩
  | .database c =>
    let r := (c.database files).reader
    let (result, _, sink) := (dialogue (.ofReader r config)).run r encoder [] sink
    { result := result, text := sink.text }

/-- The files that a query of a catalog removes. -/
def leftovers (c : Catalog) (files : Files) : List String :=
  match c with
  | .snapshot _ => []
  | .database c => c.leftovers files

end Catalog

/-- The paths that are looked at for the catalog. -/
def Arguments.catalogPaths (a : Arguments) : List String :=
  match a.snapshot, a.url.map Sqlite.Address.ofUrl with
  | some path, _ => [path]
  | none, some (.ok address) => address.paths
  | none, _ => []

/-- What stands in the way of a session. -/
inductive SetupError where
  | badCommand (line : String) (cause : CommandError)
  /-- A setting without a key. -/
  | badSetting (setting : String)
  | badOption (cause : Failure)
  | noSnapshot (path : String) (cause : Failure)
  | noConnection (cause : Failure)
  /-- No catalog was named. -/
  | noCatalog
  deriving DecidableEq, Repr

/-- The text of an error with all its causes. -/
def SetupError.line : SetupError → String
  | .badCommand line cause => "invalid command " ++ Text.quoted line ++ ": " ++ cause.message
  | .badSetting setting => "invalid --pset " ++ Text.quoted setting ++ ", expected KEY=VALUE"
  | .badOption cause => "invalid --pset: " ++ cause.line
  | .noSnapshot path cause => "failed to load snapshot " ++ path ++ ": " ++ cause.line
  | .noConnection cause => "failed to connect to database: " ++ cause.line
  | .noCatalog => "no catalog to describe: pass --url or --snapshot"

/-- The key before the first equals sign, without the blanks around it, and the value after it. -/
def settingOf? (setting : String) : Option (String × String) :=
  let cs := setting.toList
  match cs.dropWhile (· != '=') with
  | [] => none
  | _ :: value =>
    let key := Text.trimOf (cs.takeWhile (· != '='))
    if key.isEmpty then none else some (String.ofList key, String.ofList value)

/-- The pairs of settings; the first one without a key is reported. -/
def settingsOf : List String → Except SetupError (List (String × String))
  | [] => .ok []
  | setting :: rest =>
    match settingOf? setting with
    | none => .error (.badSetting setting)
    | some pair => do
      let pairs ← settingsOf rest
      .ok (pair :: pairs)

/-- Connects to the database at a URL. No server is in reach. -/
def connect (files : Files) (url : String) :
    Except Failure (Sqlite.Connection × Sqlite.Changes) := do
  match Engine.ofUrl? url with
  | none => .error (.driver ("Unsupported database URL scheme: " ++ url))
  | some .sqlite =>
    let address ← (Sqlite.Address.ofUrl url).mapError fun e => .driver e.message
    Sqlite.connect files address
  | some _ => .error (.driver "pool timed out while waiting for an open connection")

structure Session where
  command : MetaCommand
  options : Options
  catalog : Catalog
  /-- What opening the catalog does to files. -/
  changes : Sqlite.Changes := {}

namespace Session

/-- The snapshot in the text of a file that was read. -/
def loadSnapshot (content : Except FileError String) : Except Failure Snapshot :=
  match content with
  | .ok text => Snapshot.ofText text
  | .error e => .error (.output e.message)

/-- The catalog that the arguments name, and what opening it does to files. -/
def openCatalog (a : Arguments) (files : Files) : Except SetupError (Catalog × Sqlite.Changes) :=
  match a.snapshot, a.url with
  | some path, _ =>
    ((loadSnapshot (files.text path)).map fun s => (.snapshot s, {})).mapError (.noSnapshot path)
  | none, some url =>
    ((connect files url).map fun c => (.database c.1, c.2)).mapError .noConnection
  | none, none => .error .noCatalog

/-- Opens the session that the arguments ask for. -/
def ofArguments (a : Arguments) (files : Files) : Except SetupError Session := do
  let command ← (MetaCommand.parse a.commandLine).mapError (.badCommand a.commandLine)
  let pairs ← settingsOf a.settings
  let options ← (Options.ofPairs pairs).mapError .badOption
  let (catalog, changes) ← openCatalog a files
  .ok ⟨command, options, catalog, changes⟩

/-- The configuration for the driver of a catalog: the schemas of its engine are system schemas. -/
def configFor (driver : String) (options : Options) : Config :=
  let config : Config := { options := options }
  match Engine.ofDriver? driver with
  | some e => config.withSystemSchemas e.systemSchemas
  | none => config

/-- The encoder that the arguments ask for. Titles are bold only on a terminal. -/
def encoderFor (a : Arguments) (terminal : Bool) : Encoder :=
  match a.format with
  | .table => .table (terminal && !a.noColor && a.output.isNone)
  | .json => .json (if a.compact then .compact else .indented)

/-- Runs the command of a session. -/
def perform (s : Session) (files : Files) (encoder : Encoder) (sink : Sink) : Performance :=
  s.catalog.hold files (configFor s.catalog.driver s.options) encoder sink s.command.dialogue

end Session

end CatalogReport
