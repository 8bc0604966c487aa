import CatalogReport.Shell.Run

/-!
# The program

Describes a catalog from the command line. Files and streams are used here and nowhere else.
-/

open CatalogReport

namespace CatalogReport.Program

/-- The number of an error of the system, which may come negated. -/
def errorNumber (code : UInt32) : Nat :=
  if code.toNat < 0x80000000 then code.toNat else (0 - code).toNat

/-- Why a file could not be used. -/
def fileError : IO.Error → FileError
  | .noFileOrDirectory .. => .missing
  | .inappropriateType _ code _ => if errorNumber code = 20 then .notFolder else .isFolder
  | e@(.invalidArgument _ code _) =>
    if errorNumber code = 36 then .nameTooLong else .other (toString e)
  | e@(.resourceExhausted _ code _) =>
    if errorNumber code = 28 then .noSpace else .other (toString e)
  | e@(.noSuchThing _ code _) => if errorNumber code = 6 then .noDevice else .other (toString e)
  | e => .other (toString e)

def readFile (path : String) : IO (Except FileError ByteArray) := do
  try
    pure (.ok (← IO.FS.readBinFile path))
  catch e => pure (.error (fileError e))

/-- The text of bytes that should be one. -/
def decodeText (bytes : ByteArray) : Except FileError String :=
  (String.fromUTF8? bytes).elim (.error (.other "stream did not contain valid UTF-8")) .ok

/-- What is seen of the files that were read. -/
def filesOf (contents : List (String × Except FileError ByteArray)) : Files where
  text path := (contents.lookup path).elim (.error .missing) fun content => content.bind decodeText
  bytes path :=
    (contents.lookup path).elim (.error .missing) fun content => content.map ByteArray.toList

/-- An event as a log line. -/
def lineOf : Event → String
  | .catalogReady driver offers =>
    "catalog ready driver=" ++ Text.quoted driver ++ " capabilities=" ++ offers.summary
  | .executing command => "executing command=" ++ Text.quoted command
  | .query kind filter => "snapshot query capability=" ++ kind.name ++ " filter=" ++ reprStr filter

/-- The machine that the program is started on. What the environment wants logged is not looked
at. -/
instance : Host IO IO.FS.Stream where
  files paths := do
    let contents ← paths.mapM fun path => do pure (path, ← readFile path)
    pure (filesOf contents)
  stdout := IO.getStdout
  isTerminal := do (← IO.getStdout).isTty
  create path := do
    try
      pure (.ok (.ofHandle (← IO.FS.Handle.mk path .write)))
    catch e => pure (.error (fileError e))
  write target text := do
    try
      target.putStr text
      target.flush
      pure (.ok ())
    catch e => pure (.error (fileError e))
  remove path := do
    try
      IO.FS.removeFile path
    catch _ => pure ()
  report text := IO.eprint text
  logged := pure none
  note event := IO.eprintln ("DEBUG " ++ lineOf event)

end CatalogReport.Program

def main (words : List String) : IO UInt32 := do
  let code ← Run.onWords words
  pure code.toUInt32
