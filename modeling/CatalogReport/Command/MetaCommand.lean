import CatalogReport.Describe.Functions
import CatalogReport.Describe.Lists
import CatalogReport.Describe.Relations
import CatalogReport.Describe.Stats
import CatalogReport.Text.Blank
import CatalogReport.Text.Quoted

/-!
# Commands

A command line is a backslash, the name of a command with its modifiers, and arguments after blanks.

| Line | Command |
|---|---|
| `\l[+] [pattern]` | list databases |
| `\d[S+]` | list schemas |
| `\d[S+] pattern` | describe relations |
| `\dn[S+] [pattern]` | list schemas |
| `\di[S+] [pattern]` | list indexes |
| `\dp[S] [pattern]` | list access privileges |
| `\df[anptw][S+] [pattern]` | list functions |
| `\d{t,v,m,s}[S+] [pattern]` | list relations of these kinds |
| `\ss[+] pattern [k]` | show column statistics |

The modifier `S` asks for system objects and `+` for a verbose report.
-/

namespace CatalogReport

inductive MetaCommand where
  | listDatabases (pattern : String) (verbose : Bool)
  | listSchemas (pattern : String) (verbose showSystem : Bool)
  | describeRelations (pattern : String) (verbose showSystem : Bool)
  | listTables (codes pattern : String) (verbose showSystem : Bool)
  | listIndexes (pattern : String) (verbose showSystem : Bool)
  | listFunctions (codes pattern : String) (verbose showSystem : Bool)
  | showStats (pattern : String) (verbose : Bool) (k : Nat)
  | listPrivileges (pattern : String) (showSystem : Bool)
  deriving DecidableEq, Repr

/-- The name of a command in a log. -/
def MetaCommand.name : MetaCommand → String
  | .listDatabases .. => "list_all_dbs"
  | .listSchemas .. => "list_schemas"
  | .describeRelations .. => "describe_table_details"
  | .listTables .. => "list_tables"
  | .listIndexes .. => "list_indexes"
  | .listFunctions .. => "describe_functions"
  | .showStats .. => "show_stats"
  | .listPrivileges .. => "list_privilege_summaries"

/-- Why a line is not a command. -/
inductive CommandError where
  | notACommand (line : String)
  | unknown (name : String)
  | invalidModifier (name : String) (modifier : Char)
  | missingPattern (name : String)
  | invalidCount (word : String)
  | unexpectedArgument (word : String)
  deriving DecidableEq, Repr

def CommandError.message : CommandError → String
  | .notACommand line =>
    "not a meta-command: " ++ Text.quoted line ++ " (commands start with a backslash)"
  | .unknown name => "unknown command \\" ++ name
  | .invalidModifier name modifier =>
    "invalid modifier " ++ Text.quotedChar modifier ++ " in \\" ++ name
  | .missingPattern name => "\\" ++ name ++ " requires a pattern"
  | .invalidCount word => "invalid number of common values " ++ Text.quoted word
  | .unexpectedArgument word => "unexpected argument " ++ Text.quoted word

namespace MetaCommand

/-- The letters of the kinds of relations. -/
def relationCodes : List Char := ['t', 'v', 'm', 's']

/-- The letters of the kinds of functions. -/
def functionCodes : List Char := ['a', 'n', 'p', 't', 'w']

/-- How many common values are shown when a line does not say. -/
def defaultTop : Nat := 3

structure Modifiers where
  verbose : Bool
  showSystem : Bool
  deriving DecidableEq, Repr

/-- The modifiers of a command that knows those in `allowed`. -/
def modifiers (name : String) (allowed letters : List Char) : Except CommandError Modifiers :=
  match letters.find? fun c => !allowed.contains c with
  | some c => .error (.invalidModifier name c)
  | none => .ok ⟨letters.contains '+', letters.contains 'S'⟩

/-- The only argument, if there is one. -/
def onlyPattern : List String → Except CommandError String
  | [] => .ok ""
  | [pattern] => .ok pattern
  | _ :: extra :: _ => .error (.unexpectedArgument extra)

/-- A count of 64 bits in decimal digits, perhaps with a plus sign. -/
def countOf? (word : String) : Option Nat :=
  let digits :=
    match word.toList with
    | '+' :: rest => rest
    | cs => cs
  if digits.isEmpty || !digits.all Char.isDigit then none
  else
    let n := Draft.natOf (Draft.digitsOf digits)
    if n < UInt64.size then some n else none

/-- The statistics command with these letters after its name. -/
def ofStatsName (name : String) (letters : List Char) (args : List String) :
    Except CommandError MetaCommand := do
  let m ← modifiers name ['+'] letters
  match args with
  | [] => .error (.missingPattern name)
  | [pattern] => .ok (.showStats pattern m.verbose defaultTop)
  | [pattern, count] =>
    match countOf? count with
    | some k => .ok (.showStats pattern m.verbose k)
    | none => .error (.invalidCount count)
  | _ :: _ :: extra :: _ => .error (.unexpectedArgument extra)

/-- The command for what stands after the letter `d`. -/
def ofDetailName (name : String) (letters : List Char) (pattern : String) :
    Except CommandError MetaCommand := do
  match letters with
  | 'n' :: rest =>
    let m ← modifiers name ['S', '+'] rest
    .ok (.listSchemas pattern m.verbose m.showSystem)
  | 'i' :: rest =>
    let m ← modifiers name ['S', '+'] rest
    .ok (.listIndexes pattern m.verbose m.showSystem)
  | 'p' :: rest =>
    let m ← modifiers name ['S'] rest
    .ok (.listPrivileges pattern m.showSystem)
  | 'f' :: rest =>
    let codes := rest.takeWhile functionCodes.contains
    let m ← modifiers name ['S', '+'] (rest.dropWhile functionCodes.contains)
    .ok (.listFunctions (String.ofList (if codes.isEmpty then functionCodes else codes)) pattern
      m.verbose m.showSystem)
  | letters =>
    let codes := letters.takeWhile relationCodes.contains
    let rest := letters.dropWhile relationCodes.contains
    if codes.isEmpty && !(rest.head?.all ['S', '+'].contains) then .error (.unknown name)
    else
      let m ← modifiers name ['S', '+'] rest
      .ok <|
        if !codes.isEmpty then .listTables (String.ofList codes) pattern m.verbose m.showSystem
        else if pattern.isEmpty then .listSchemas pattern m.verbose m.showSystem
        else .describeRelations pattern m.verbose m.showSystem

/-- The command of a line that is split into a name and arguments. -/
def ofWords (name : String) (args : List String) : Except CommandError MetaCommand :=
  match name.toList with
  | 's' :: 's' :: letters => ofStatsName name letters args
  | cs => do
    let pattern ← onlyPattern args
    match cs with
    | 'l' :: letters =>
      let m ← modifiers name ['+'] letters
      .ok (.listDatabases pattern m.verbose)
    | 'd' :: letters => ofDetailName name letters pattern
    | _ => .error (.unknown name)

/-- Reads a command line. -/
def parse (line : String) : Except CommandError MetaCommand :=
  let line := Text.trim line
  match line.toList with
  | '\\' :: body =>
    match (Text.wordsOf body).map String.ofList with
    | [] => ofWords "" []
    | name :: args => ofWords name args
  | _ => .error (.notACommand line)

/-- What a command does. -/
def dialogue (d : Describer) : MetaCommand → Dialogue Unit
  | .listDatabases pattern verbose => d.listDatabases pattern verbose
  | .listSchemas pattern _ showSystem => d.listSchemas pattern showSystem
  | .describeRelations pattern verbose showSystem => d.describeRelations pattern verbose showSystem
  | .listTables codes pattern verbose showSystem => d.listTables codes pattern verbose showSystem
  | .listIndexes pattern verbose showSystem => d.listIndexes pattern verbose showSystem
  | .listFunctions codes pattern verbose showSystem =>
    d.listFunctions codes pattern verbose showSystem
  | .showStats pattern verbose k => d.showStats pattern verbose k
  | .listPrivileges pattern showSystem => d.listPrivileges pattern showSystem

end MetaCommand

end CatalogReport
