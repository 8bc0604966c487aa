/-!
# Arguments of the command line

Words are read from left to right. An option takes its value from its own word or from the next one;
a value is judged when the next option, switch or plain word comes, or at the end. So a word that
nothing stands for is reported before the value in front of it is, and a switch after it.
-/

namespace CatalogReport

/-- What the output is written as. -/
inductive Format where
  | table
  | json
  deriving DecidableEq, Repr

structure Arguments where
  /-- The plain words, which make up the command. -/
  command : List String := []
  /-- The address of a live database. -/
  url : Option String := none
  /-- The file with a snapshot. -/
  snapshot : Option String := none
  format : Format := .table
  /-- Options of the report, as they were given. -/
  settings : List String := []
  /-- The file to write to. -/
  output : Option String := none
  compact : Bool := false
  noColor : Bool := false
  debug : Bool := false
  deriving DecidableEq, Repr

/-- Why words are not run as a command: they are wrong, or ask for a text about the program. -/
inductive UsageError where
  | help
  | version
  | unknownArgument
  | invalidValue
  | tooManyValues
  | conflict
  | missingCommand
  deriving DecidableEq, Repr

namespace Arguments

/-- Options with a value. -/
inductive Valued where
  | url
  | snapshot
  | format
  | setting
  | output
  deriving DecidableEq, Repr

/-- Options without one. -/
inductive Switch where
  | compact
  | noColor
  | debug
  deriving DecidableEq, Repr

inductive Flag where
  | valued (v : Valued)
  | switch (s : Switch)
  | help
  | version
  deriving DecidableEq, Repr

def longFlags : List (String × Flag) := [
  ("url", .valued .url),
  ("snapshot", .valued .snapshot),
  ("format", .valued .format),
  ("pset", .valued .setting),
  ("output", .valued .output),
  ("compact", .switch .compact),
  ("no-color", .switch .noColor),
  ("debug", .switch .debug),
  ("help", .help),
  ("version", .version)]

def shortFlags : List (Char × Flag) := [
  ('u', .valued .url),
  ('s', .valued .snapshot),
  ('f', .valued .format),
  ('o', .valued .output),
  ('c', .switch .compact),
  ('h', .help),
  ('V', .version)]

def formatOf? (name : String) : Option Format :=
  if name = "table" then some .table
  else if name = "json" then some .json
  else none

/-- What was read so far. -/
structure Progress where
  arguments : Arguments := {}
  /-- Whether a format was given. -/
  hasFormat : Bool := false
  /-- An option whose value is not judged yet, with the value if it came. -/
  pending : Option (Valued × Option String) := none
  /-- Whether all further words are plain. -/
  plainOnly : Bool := false

/-- Steps of reading. -/
abbrev Step := Except UsageError Progress

/-- Takes the value of an option; only `--pset` may be given more than once. -/
def take (p : Progress) (v : Valued) (value : String) : Step :=
  let a := p.arguments
  match v with
  | .url =>
    if a.url.isSome then .error .conflict
    else .ok { p with arguments := { a with url := some value } }
  | .snapshot =>
    if a.snapshot.isSome then .error .conflict
    else if value.isEmpty then .error .invalidValue
    else .ok { p with arguments := { a with snapshot := some value } }
  | .format =>
    if p.hasFormat then .error .conflict
    else
      match formatOf? value with
      | some format => .ok { p with arguments := { a with format := format }, hasFormat := true }
      | none => .error .invalidValue
  | .setting => .ok { p with arguments := { a with settings := a.settings ++ [value] } }
  | .output =>
    if a.output.isSome then .error .conflict
    else if value.isEmpty then .error .invalidValue
    else .ok { p with arguments := { a with output := some value } }

/-- Judges the value that is pending. -/
def settle (p : Progress) : Step :=
  match p.pending with
  | none => .ok p
  | some (_, none) => .error .invalidValue
  | some (v, some value) => take { p with pending := none } v value

def turnOn (p : Progress) (s : Switch) : Step :=
  let a := p.arguments
  match s with
  | .compact =>
    if a.compact then .error .conflict
    else .ok { p with arguments := { a with compact := true } }
  | .noColor =>
    if a.noColor then .error .conflict
    else .ok { p with arguments := { a with noColor := true } }
  | .debug =>
    if a.debug then .error .conflict
    else .ok { p with arguments := { a with debug := true } }

/-- Takes an option, with the value if that is in the same word. -/
def takeFlag (p : Progress) (flag : Flag) (attached : Option String) : Step := do
  let p ← settle p
  match flag with
  | .valued v =>
    match attached with
    | some value => take p v value
    | none => .ok { p with pending := some (v, none) }
  | .switch s => turnOn p s
  | .help => .error .help
  | .version => .error .version

/-- Reads what stands after two dashes. -/
def readLong (p : Progress) (cs : List Char) : Step :=
  let name := String.ofList (cs.takeWhile (· != '='))
  let attached : Option String :=
    match cs.dropWhile (· != '=') with
    | [] => none
    | _ :: value => some (String.ofList value)
  match longFlags.lookup name with
  | none => .error .unknownArgument
  | some (.valued v) => takeFlag p (.valued v) attached
  | some flag => if attached.isSome then .error .tooManyValues else takeFlag p flag none

/-- Reads the letters after one dash; what stands after an option with a value is its value. -/
def readShort (p : Progress) : List Char → Step
  | [] => .ok p
  | c :: rest =>
    match shortFlags.lookup c with
    | none => .error .unknownArgument
    | some (.valued v) =>
      takeFlag p (.valued v) <|
        match rest with
        | [] => none
        | '=' :: value => some (String.ofList value)
        | value => some (String.ofList value)
    | some flag => do
      let p ← takeFlag p flag none
      readShort p rest

/-- Reads a word that is part of the command. -/
def readPlain (p : Progress) (word : String) : Step := do
  let p ← settle p
  let a := p.arguments
  .ok { p with arguments := { a with command := a.command ++ [word] } }

def readWord (p : Progress) (word : String) : Step :=
  if p.plainOnly then readPlain p word
  else
    match word.toList with
    | ['-', '-'] => .ok { p with plainOnly := true }
    | '-' :: '-' :: cs => readLong p cs
    | '-' :: c :: cs => readShort p (c :: cs)
    | _ =>
      match p.pending with
      | some (v, none) => .ok { p with pending := some (v, some word) }
      | _ => readPlain p word

def readWords (p : Progress) : List String → Step
  | [] => settle p
  | word :: rest => do
    let p ← readWord p word
    readWords p rest

/-- Reads the words after the name of the program. A database and a snapshot exclude each other. -/
def ofWords (words : List String) : Except UsageError Arguments := do
  let p ← readWords {} words
  let a := p.arguments
  if a.url.isSome && a.snapshot.isSome then .error .conflict
  else if a.command.isEmpty then .error .missingCommand
  else .ok a

/-- The words of the command as one line. -/
def commandLine (a : Arguments) : String :=
  " ".intercalate a.command

end Arguments

end CatalogReport
