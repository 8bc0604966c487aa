import CatalogReport.Live.Ipv6
import CatalogReport.Text.Percent
import CatalogReport.Text.Quoted

/-!
# URLs of databases

The text of a URL with the scheme `sqlite`, as it is once it is read: without blanks around it, its
host and its service in one spelling, and the steps `.` and `..` of a path that begins with a slash
taken. A URL without such a path is left as it is.
-/

namespace CatalogReport.Sqlite

/-- Why an address leads to no database. -/
inductive AddressError where
  | emptyHost
  | badHost
  | badService
  /-- The name of the file is not a text. -/
  | badName
  | unknownParameter (name : String)
  | unknownValue (name value : String)
  /-- A value that asks for more than the address may. -/
  | notAllowed (name value : String)
  /-- A way to reach files that the engine does not have. -/
  | unknownAccess (name : String)
  deriving DecidableEq, Repr

def AddressError.message : AddressError → String
  | .emptyHost => "error with configuration: empty host"
  | .badHost => "error with configuration: invalid domain character"
  | .badService => "error with configuration: invalid port number"
  | .badName => "error with configuration: file name is not a text"
  | .unknownParameter name =>
    "error with configuration: unknown query parameter `" ++ name ++
      "` while parsing connection URL"
  | .unknownValue name value =>
    "error with configuration: unknown value " ++ Text.quoted value ++ " for `" ++ name ++ "`"
  | .notAllowed name value =>
    "error returned from database: (code: 3) " ++ name ++ " mode not allowed: " ++ value
  | .unknownAccess name => "error returned from database: (code: 1) no such vfs: " ++ name

namespace Url

/-- Drops a word from the beginning as often as it stands there. -/
def dropWord (word : List Char) (cs : List Char) : List Char :=
  if _h : word ≠ [] ∧ word.isPrefixOf cs then dropWord word (cs.drop word.length) else cs
termination_by cs.length
decreasing_by
  have hpos := List.length_pos_iff.2 _h.1
  have hle := (List.isPrefixOf_iff_prefix.1 _h.2).length_le
  simp only [List.length_drop]
  omega

/-- The characters of a URL: without blanks at its end, and without tabs and ends of lines in it. -/
def charsOf (url : String) : List Char :=
  (url.toList.reverse.dropWhile (·.toNat ≤ 0x20)).reverse.filter fun c =>
    c != '\t' && c != '\n' && c != '\r'

/-- Characters that end the part of a URL which names the host. -/
def endsHost (c : Char) : Bool :=
  c == '/' || c == '?' || c == '#'

/-- Characters that end the path of a URL. -/
def endsPath (c : Char) : Bool :=
  c == '?' || c == '#'

/-! ## The host -/

/-- Characters that no name of a host holds. -/
def isForbiddenInHost (c : Char) : Bool :=
  [Char.ofNat 0, ' ', '<', '>', '@', '[', '\\', ']', '^', '|'].contains c

/-- A host and what follows it from the first colon outside brackets on. -/
def splitHost (inBrackets : Bool) : List Char → List Char × List Char
  | [] => ([], [])
  | c :: cs =>
    if c == ':' && !inBrackets then ([], c :: cs)
    else
      let (host, rest) := splitHost (c == '[' || (inBrackets && c != ']')) cs
      (c :: host, rest)

/-- The one spelling of a host: a name, or an address of IPv6 in brackets. -/
def hostOf (cs : List Char) : Except AddressError (List Char) :=
  match cs with
  | '[' :: rest =>
    if rest.getLast? = some ']' then
      match Ipv6.ofChars? rest.dropLast with
      | some numbers => .ok ('[' :: (Ipv6.toChars numbers ++ [']']))
      | none => .error .badHost
    else .error .badHost
  | cs => if cs.any isForbiddenInHost then .error .badHost else .ok cs

/-- The number of a service without needless zeros, and what follows it: a backslash ends it. -/
def serviceOf (cs : List Char) : Except AddressError (List Char × List Char) :=
  let digits := cs.takeWhile (· != '\\')
  let rest := cs.dropWhile (· != '\\')
  if digits.isEmpty then .ok ([], rest)
  else if digits.all Char.isDigit then
    let n := digits.foldl (fun n c => n * 10 + (c.toNat - '0'.toNat)) 0
    if n < 65536 then .ok (':' :: Nat.toDigits 10 n, rest) else .error .badService
  else .error .badService

/-- A host with the number of its service, and what follows them. -/
def serverOf (cs : List Char) : Except AddressError (List Char × List Char) := do
  let (host, tail) := splitHost false cs
  let host ← hostOf host
  if host.isEmpty && !tail.isEmpty then .error .emptyHost
  else
    let (service, rest) ← serviceOf (tail.drop 1)
    .ok (host ++ service, rest)

/-- A user and a password; an empty password goes, and the at sign with an empty user. -/
def userOf (cs : List Char) : List Char :=
  let name := cs.takeWhile (· != ':')
  let user := if (cs.dropWhile (· != ':')).length ≤ 1 then name else cs
  if user.isEmpty then [] else user ++ ['@']

/-- The part of a URL that names the host, and what of it belongs to the path. Before `tail` a user
needs a host. -/
def authorityOf (cs tail : List Char) : Except AddressError (List Char × List Char) :=
  if cs.contains '@' then do
    let server := (cs.reverse.takeWhile (· != '@')).reverse
    let user := (cs.reverse.dropWhile (· != '@')).reverse.dropLast
    if user.isEmpty && server.isEmpty && !tail.isEmpty then .error .emptyHost
    else
      let (server, rest) ← serverOf server
      if server.isEmpty && !(userOf user).isEmpty then .error .emptyHost
      else .ok (userOf user ++ server, rest)
  else serverOf cs

/-! ## The path -/

/-- The steps of a path from the root, one after another. A last step that leads nowhere new leaves
an empty one. -/
def walk (done : List (List Char)) : List (List Char) → List (List Char)
  | [] => done.reverse
  | step :: rest =>
    match (Text.Percent.decode? step).getD "" with
    | "." => walk (if rest.isEmpty then [] :: done else done) rest
    | ".." => walk (if rest.isEmpty then [] :: done.drop 1 else done.drop 1) rest
    | _ => walk (step :: done) rest

/-- A path that begins with a slash, after its steps are taken. -/
def pathOf (cs : List Char) : List Char :=
  if cs.isEmpty then []
  else ((walk [] (Text.pieces (· == '/') (cs.drop 1))).map ('/' :: ·)).flatten

/-- A path that cannot be taken for a host. -/
def hostless (path : List Char) : List Char :=
  if ['/', '/'].isPrefixOf path then '/' :: '.' :: path else path

/-! ## The whole URL -/

/-- A URL whose scheme is `sqlite`. -/
def normalized (url : String) : Except AddressError (List Char) := do
  let scheme := "sqlite:".toList
  let cs := (charsOf url).drop scheme.length
  match cs with
  | '/' :: '/' :: cs =>
    let tail := cs.dropWhile fun c => !endsHost c
    let (authority, rest) ← authorityOf (cs.takeWhile fun c => !endsHost c) tail
    let path := tail.takeWhile fun c => !endsPath c
    let path := pathOf (if rest.isEmpty then path else '/' :: (rest ++ path))
    .ok (scheme ++ ['/', '/'] ++ authority ++ path ++ tail.dropWhile fun c => !endsPath c)
  | '/' :: _ =>
    let path := hostless (pathOf (cs.takeWhile fun c => !endsPath c))
    .ok (scheme ++ path ++ cs.dropWhile fun c => !endsPath c)
  | _ => .ok (scheme ++ cs)

/-- What follows the scheme. -/
def bodyOf (url : String) : Except AddressError (List Char) := do
  let cs ← normalized url
  .ok (dropWord "sqlite:".toList (dropWord "sqlite://".toList cs))

end Url

end CatalogReport.Sqlite
