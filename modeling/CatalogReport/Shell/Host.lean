import CatalogReport.Catalog.Filter
import CatalogReport.Reader.Capabilities
import CatalogReport.Shell.FileSystem

/-!
# Hosts

What a run uses of the machine that it is on: files, the two streams that it writes to, and a log.
The program is written for all hosts. `Simulated` is a host that is nothing but a state, so that a
run on it can be reasoned about and tested.
-/

namespace CatalogReport

/-- What is logged of a run. Log lines go to the stream of the errors; how a line is spelled is left
to the library that writes it. What is logged only of a live reader, its statements and the kinds
that it lacks, is left out. -/
inductive Event where
  | catalogReady (driver : String) (offers : Capabilities)
  | executing (command : String)
  /-- A query of a snapshot. -/
  | query (kind : Kind) (filter : Filter)
  deriving DecidableEq

/-- A machine on which programs are in `m` and texts are written to targets in `τ`. -/
class Host (m : Type → Type) (τ : outParam Type) where
  /-- What is seen of the files at some paths. -/
  files : List String → m Files
  stdout : m τ
  /-- Whether `stdout` is a terminal. -/
  isTerminal : m Bool
  /-- Makes an empty file at a path, or empties the one that is there, to write to. -/
  create : String → m (Except FileError τ)
  /-- Writes a whole text. -/
  write : τ → String → m (Except FileError Unit)
  /-- Removes the file at a path if it is there. -/
  remove : String → m Unit
  /-- Writes to the stream of the errors. -/
  report : String → m Unit
  /-- Which events the environment wants logged, if it says so. -/
  logged : m (Option (Event → Bool))
  note : Event → m Unit

/-! ## Simulated hosts -/

/-- What a simulated run finds and cannot change. -/
structure Surroundings where
  stdout : Device := .print
  logged : Option (Event → Bool) := none

/-- What a simulated run changes. -/
structure World (σ : Type) where
  folder : σ
  /-- What was printed. -/
  out : String := ""
  /-- What was written to the stream of the errors besides log lines. -/
  err : String := ""
  log : List Event := []
  deriving DecidableEq

/-- Programs on a simulated host whose files have states in `σ`. -/
abbrev Simulated (σ : Type) := ReaderT Surroundings (StateM (World σ))

namespace World

variable {σ : Type} [FileSystem σ]

def create (w : World σ) (path : String) : Except FileError Target × World σ :=
  match FileSystem.create w.folder path with
  | .ok (target, folder) => (.ok target, { w with folder := folder })
  | .error e => (.error e, w)

/-- What a target does with a text. A device that refuses still takes an empty one. -/
def write (w : World σ) (target : Target) (text : String) : Except FileError Unit × World σ :=
  match target with
  | .file name => (.ok (), { w with folder := FileSystem.put w.folder name text })
  | .device .refuse => (if text.isEmpty then .ok () else .error .noSpace, w)
  | .device .drop => (.ok (), w)
  | .device .print | .device .terminal => (.ok (), { w with out := w.out ++ text })
  | .device .report => (.ok (), { w with err := w.err ++ text })

end World

instance {σ : Type} [FileSystem σ] : Host (Simulated σ) Target where
  files _ := fun _ w => (FileSystem.files w.folder, w)
  stdout := fun around w => (.device around.stdout, w)
  isTerminal := fun around w => (around.stdout == .terminal, w)
  create path := fun _ w => w.create path
  write target text := fun _ w => w.write target text
  remove path := fun _ w => ((), { w with folder := FileSystem.remove w.folder path })
  report text := fun _ w => ((), { w with err := w.err ++ text })
  logged := fun around w => (around.logged, w)
  note event := fun _ w => ((), { w with log := w.log ++ [event] })

end CatalogReport
