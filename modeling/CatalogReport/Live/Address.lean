import CatalogReport.Live.Url

/-!
# Addresses of SQLite databases

An address is a URL with the scheme `sqlite`. What follows the scheme, and two slashes if they are
there, names a file up to the first question mark; the parameters behind it say how the file is
opened. The name may itself be a URL with the scheme `file`, and its parameters then count as well.
A database without a file is made in memory and is empty.
-/

namespace CatalogReport.Sqlite

/-- A way to reach files. -/
inductive Access where
  | plain
  /-- Without locks. -/
  | unlocked
  /-- With a file beside the database as a lock. -/
  | lockFile
  /-- With a lock that is kept. -/
  | exclusive
  | memory
  deriving DecidableEq, Repr

namespace Access

/-- The ways to reach files that the engine has. -/
def ofName? : String → Option Access
  | "unix" => some .plain
  | "unix-none" => some .unlocked
  | "unix-dotfile" => some .lockFile
  | "unix-excl" => some .exclusive
  | "memdb" => some .memory
  | _ => none

/-- Whether the users of a database can share what is in memory. -/
def sharesMemory : Access → Bool
  | .plain | .exclusive => true
  | _ => false

end Access

/-- What may be done with a file. -/
inductive Rights where
  | read
  | write
  | create
  deriving DecidableEq, Repr

namespace Rights

def rank : Rights → Nat
  | .read => 0
  | .write => 1
  | .create => 2

def ofName? : String → Option Rights
  | "ro" => some .read
  | "rw" => some .write
  | "rwc" => some .create
  | _ => none

end Rights

/-- How a database is opened. -/
structure Opening where
  rights : Rights := .write
  inMemory : Bool := false
  access : Access := .plain
  /-- Nothing changes the file, so nothing is looked for beside it. -/
  immutable : Bool := false
  unlocked : Bool := false
  deriving DecidableEq, Repr

/-- Where an address leads. -/
inductive Address where
  | memory
  | file (name : String) (opening : Opening)
  deriving DecidableEq, Repr

namespace Address

/-! ## Parameters of the address -/

/-- What the parameters of an address ask for. -/
structure Request where
  readOnly : Bool := false
  create : Bool := false
  inMemory : Bool := false
  immutable : Bool := false
  /-- The way to reach files. -/
  access : Option String := none
  deriving DecidableEq, Repr

namespace Request

def take (r : Request) (name value : String) : Except AddressError Request :=
  match name with
  | "mode" =>
    match value with
    | "ro" => .ok { r with readOnly := true }
    | "rw" => .ok r
    | "rwc" => .ok { r with create := true }
    | "memory" => .ok { r with inMemory := true }
    | _ => .error (.unknownValue name value)
  | "cache" =>
    if ["private", "shared"].contains value then .ok r else .error (.unknownValue name value)
  | "immutable" =>
    if ["true", "1"].contains value then .ok { r with immutable := true }
    else if ["false", "0"].contains value then .ok { r with immutable := false }
    else .error (.unknownValue name value)
  | "vfs" => .ok { r with access := some value }
  | _ => .error (.unknownParameter name)

/-- Takes parameters from left to right. -/
def ofPairs (pairs : List (String × String)) : Except AddressError Request :=
  pairs.foldlM (fun r pair => r.take pair.1 pair.2) {}

def opening (r : Request) : Opening where
  rights := if r.readOnly then .read else if r.create then .create else .write
  inMemory := r.inMemory

/-- The parameters that are handed on with the name of the file. -/
def handedOn (r : Request) : List (String × String) :=
  (if r.immutable then [("immutable", "true")] else []) ++
    r.access.toList.map fun value => ("vfs", value)

end Request

/-! ## Parameters of a file -/

/-- A text up to its first character of code zero. -/
def untilNul (s : String) : String :=
  String.ofList (s.toList.takeWhile (·.toNat != 0))

/-- Whether a value means yes: a number other than zero by its last byte, or a word. -/
def means (value : String) : Bool :=
  let digits := value.toList.takeWhile Char.isDigit
  if digits.isEmpty then ["on", "yes", "true"].contains (value.map Char.toLower)
  else
    let n := digits.foldl (fun n c => n * 10 + (c.toNat - '0'.toNat)) 0
    n < 2147483648 && n % 256 != 0

/-- The first value of a parameter, as an answer to whether it is wanted. -/
def wants (pairs : List (String × String)) (name : String) : Bool :=
  ((pairs.lookup name).map means).getD false

/-- Takes a parameter. A mode other than memory must not ask for more than the address allows,
unless that allows memory. -/
def takeMode (o : Opening) (name value : String) : Except AddressError Opening :=
  match name with
  | "cache" =>
    if ["private", "shared"].contains value then .ok o else .error (.unknownValue name value)
  | "mode" =>
    if value = "memory" then .ok { o with inMemory := true, rights := .read }
    else
      match Rights.ofName? value with
      | none => .error (.unknownValue name value)
      | some rights =>
        if o.inMemory || rights.rank ≤ o.rights.rank then
          .ok { o with inMemory := false, rights := rights }
        else .error (.notAllowed name value)
  | _ => .ok o

/-- The last value of a parameter. -/
def lastValue? (pairs : List (String × String)) (name : String) : Option String :=
  pairs.reverse.lookup name

/-- Takes the parameters of a file from left to right. -/
def Opening.withPairs (o : Opening) (pairs : List (String × String)) :
    Except AddressError Opening := do
  let o ← pairs.foldlM (fun o pair => takeMode o pair.1 pair.2) o
  let o := { o with immutable := wants pairs "immutable", unlocked := wants pairs "nolock" }
  match lastValue? pairs "vfs" with
  | none => .ok o
  | some value =>
    match Access.ofName? value with
    | some access => .ok { o with access := access }
    | none => .error (.unknownAccess value)

/-- A decoded part of a URL up to its first character of code zero. -/
def decoded (cs : List Char) : Except AddressError String :=
  (Text.Percent.decode? cs).elim (.error .badName) fun s => .ok (untilNul s)

/-- The pairs of parameters; one without a name does not count. -/
def filePairs : List (List Char) → Except AddressError (List (String × String))
  | [] => .ok []
  | piece :: rest => do
    let name ← decoded (piece.takeWhile (· != '='))
    let value ← decoded ((piece.dropWhile (· != '=')).drop 1)
    let pairs ← filePairs rest
    .ok (if name.isEmpty then pairs else (name, value) :: pairs)

/-- What follows the host of a URL, which is this computer. -/
def localPart (cs : List Char) : Except AddressError (List Char) :=
  match cs with
  | '/' :: '/' :: cs =>
    let host := cs.takeWhile (· != '/')
    if host.isEmpty || host == "localhost".toList then .ok (cs.dropWhile (· != '/'))
    else .error .badHost
  | cs => .ok cs

/-- The name and the parameters in a URL with the scheme `file`. -/
def fileUrl (cs : List Char) : Except AddressError (String × List (String × String)) := do
  let cs ← localPart (cs.takeWhile (· != '#'))
  let name ← decoded (cs.takeWhile (· != '?'))
  let pairs ← filePairs (Text.pieces (· == '&') ((cs.dropWhile (· != '?')).drop 1))
  .ok (name, pairs)

/-! ## Addresses -/

/-- Where a name leads that is opened so. -/
def ofName (name : String) (o : Opening) : Address :=
  if o.inMemory || name.isEmpty || name == ":memory:" || o.access == .memory then .memory
  else .file name o

/-- Reads the address in a URL that begins with `sqlite:`. Parameters that are handed on make the
name one of a file, whatever it looks like; a character of code zero then ends it. -/
def ofUrl (url : String) : Except AddressError Address := do
  let body ← Url.bodyOf url
  let base := body.takeWhile (· != '?')
  let request ← Request.ofPairs (Text.Percent.formPairs ((body.dropWhile (· != '?')).drop 1))
  let inMemory := base == ":memory:".toList
  let o := { request.opening with inMemory := request.inMemory || inMemory }
  let name ← if inMemory then .ok "" else (Text.Percent.decode? base).elim (.error .badName) .ok
  let handedOn := request.handedOn
  if !handedOn.isEmpty then
    let o ← Opening.withPairs o (handedOn.map fun pair => (pair.1, untilNul pair.2))
    .ok (ofName (untilNul name) o)
  else if name.toList.contains (Char.ofNat 0) then .error .badName
  else if "file:".toList.isPrefixOf name.toList then
    let (name, pairs) ← fileUrl (name.toList.drop "file:".length)
    let o ← Opening.withPairs o pairs
    .ok (ofName name o)
  else .ok (ofName name o)

end Address

end CatalogReport.Sqlite
