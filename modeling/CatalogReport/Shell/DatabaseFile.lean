import CatalogReport.Live.Address
import CatalogReport.Live.Sqlite
import CatalogReport.Shell.Folder

/-!
# Connections to database files

How a database is opened at an address, and what a query of it meets. Beside a file there may be a
journal of a change that was broken off, a log of changes and a lock. The journal and the log of a
file without pages are left over and go away, and so does a journal once its change is taken back.
-/

namespace CatalogReport.Sqlite

/-! ## Paths of databases -/

/-- The folders and files that the parts of a path lead to one after another, and where all of them
lead; parts that lead out of the folder stay. -/
def trailOf (done : List String) : List String → List (List String) × List String
  | [] => ([], done.reverse)
  | part :: rest =>
    if part.isEmpty || part == "." then trailOf done rest
    else if part == ".." then
      match done with
      | [] | ".." :: _ => trailOf (".." :: done) rest
      | _ :: before => trailOf before rest
    else
      let (trail, last) := trailOf (part :: done) rest
      ((part :: done).reverse :: trail, last)

/-- The path of steps from the root or from the working folder. -/
def pathOf (fromRoot : Bool) (steps : List String) : String :=
  let path := "/".intercalate steps
  if fromRoot then "/" ++ path else if path.isEmpty then "." else path

/-- The paths that a name leads along, and the path that it leads to. -/
def trail (name : String) : List String × String :=
  let fromRoot := name.toList.head? = some '/'
  let (trail, last) := trailOf [] ((Text.pieces (· == '/') name.toList).map String.ofList)
  (trail.map (pathOf fromRoot), pathOf fromRoot last)

/-- The most bytes of a path to a database. -/
def pathLimit : Nat := 510

namespace Opening

def journal (path : String) : String := path ++ "-journal"

def log (path : String) : String := path ++ "-wal"

def lock (path : String) : String := path ++ ".lock"

/-- The bytes of a file, none if it cannot be read. -/
def contents (files : Files) (path : String) : Image :=
  (files.bytes path).toOption.getD []

variable (o : Opening) (files : Files) (path : String)

/-- Whether a file is the lock of the database. -/
def locksByFile : Bool :=
  o.access == .lockFile && !o.unlocked

def isLocked : Bool :=
  o.locksByFile &&
    match files.bytes (lock path) with
    | .ok _ | .error .isFolder => true
    | .error _ => false

/-- Whether a change was broken off that has to be taken back. -/
def isBrokenOff : Bool :=
  !(contents files path).isBlank && !o.locksByFile &&
    (contents files (journal path)).head?.any (· != 0)

/-- Whether changes have to be looked for in a log. -/
def needsLog : Bool :=
  let image := contents files path
  !image.isBlank && (!(contents files (log path)).isEmpty || image.keepsLog)

/-- Whether the users of the database can share a log. -/
def sharesLog : Bool :=
  !o.unlocked && o.access.sharesMemory

/-- Why a query of the database fails. -/
def fault? : Option Fault :=
  let image := contents files path
  if o.immutable then image.fault?
  else if o.isLocked files path then some .locked
  else if o.isBrokenOff files path && o.rights == .read then some .readOnly
  else if needsLog files path && !o.sharesLog then some .noLog
  else image.fault?

/-- Whether a journal may be removed that is left over. -/
def mayClear : Bool :=
  !o.locksByFile && (o.rights != .read || o.unlocked || o.access == .unlocked)

/-- The files beside the database that a query removes. -/
def leftovers : List String :=
  let holds (path : String) : Bool := !(contents files path).isEmpty
  if o.immutable || o.isLocked files path then []
  else if (contents files path).isBlank then
    [journal path].filter (fun p => o.mayClear && holds p) ++ [log path].filter holds
  else if o.isBrokenOff files path && o.rights != .read then [journal path]
  else []

end Opening

/-! ## Connections -/

/-- A file that opening a database makes and the files that it removes. -/
structure Changes where
  made : Option String := none
  removed : List String := []
  deriving DecidableEq, Repr

/-- A database that was opened. -/
structure Connection where
  address : Address
  /-- Why the first query failed, which asked for the functions. -/
  firstFault? : Option Fault := none
  /-- Whether the first query took a log into use. -/
  isLogged : Bool := false
  deriving DecidableEq, Repr

namespace Address

/-- The paths that have to be seen to open a database and to query it. -/
def paths : Address → List String
  | .memory => []
  | .file name _ =>
    let (trail, path) := trail name
    trail ++ [path, Opening.journal path, Opening.log path, Opening.lock path]

/-- Why a query of the database fails. -/
def fault? (files : Files) : Address → Option Fault
  | .memory => none
  | .file name o => o.fault? files (trail name).2

/-- The files beside the database that a query removes. -/
def leftovers (files : Files) : Address → List String
  | .memory => []
  | .file name o => o.leftovers files (trail name).2

end Address

/-- What connecting reports when a file cannot be opened. -/
def noFile : Failure :=
  .driver "error returned from database: (code: 14) unable to open database file"

/-- Whether a step of a path can be taken, even if nothing is there. -/
def canStep (files : Files) (path : String) : Bool :=
  match files.bytes path with
  | .error .notFolder | .error .nameTooLong => false
  | _ => path.utf8ByteSize ≤ pathLimit

/-- Whether a query takes a log into use, which needs most of a header in the file. -/
def Address.isLogged (files : Files) : Address → Bool
  | .memory => false
  | .file name o =>
    let path := (trail name).2
    !o.immutable && o.sharesLog && Opening.needsLog files path &&
      96 ≤ (Opening.contents files path).length && o.fault? files path != some .readOnly

/-- The connection to a database, which tries at once to list functions. -/
def connection (files : Files) (address : Address) (made : Option String) : Connection × Changes :=
  (⟨address, address.fault? files, address.isLogged files⟩, ⟨made, address.leftovers files⟩)

/-- Opens the database at an address. -/
def connect (files : Files) (address : Address) : Except Failure (Connection × Changes) :=
  match address with
  | .memory => .ok (⟨.memory, none, false⟩, {})
  | .file name o =>
    let (steps, path) := trail name
    if !steps.all (canStep files) then .error noFile
    else
      match files.bytes path with
      | .ok _ => .ok (connection files address none)
      | .error .missing =>
        if o.rights == .create then .ok (connection files address (some path)) else .error noFile
      | .error _ => .error noFile

namespace Connection

/-- Why a query fails now. What was read of a file that nothing changes is kept, and with a log in
use a file must not lose its pages. -/
def fault? (c : Connection) (files : Files) : Option Fault :=
  match c.address with
  | .memory => none
  | .file name o =>
    let path := (trail name).2
    if o.immutable then c.firstFault?
    else if c.isLogged && (Opening.contents files path).isBlank then
      some (c.firstFault?.getD .malformed)
    else o.fault? files path

/-- The files beside the database that a query removes now; a log in use stays. -/
def leftovers (c : Connection) (files : Files) : List String :=
  if c.isLogged then [] else c.address.leftovers files

/-- The database of a connection as it is now. -/
def database (c : Connection) (files : Files) : LiveDatabase :=
  Sqlite.database (c.fault? files) c.firstFault?.isNone

end Connection

end CatalogReport.Sqlite
