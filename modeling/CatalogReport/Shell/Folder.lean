import CatalogReport.Shell.FileSystem
import CatalogReport.Text.Blank

/-!
# The working folder

The files that a run can see, and what reading and writing at a path does to them. Of what lies
outside the folder only some folders, devices and texts of the system are known; a file that is made
there is not seen again.
-/

namespace CatalogReport

/-- The texts of the files in a folder by name; of two entries with one name the first counts. -/
abbrev Folder := List (String × String)

namespace Folder

/-! ## Outside the folder -/

/-- The folders of the system, by their steps from the root. -/
def systemFolders : List (List String) :=
  ["bin", "boot", "dev", "etc", "home", "lib", "media", "mnt", "opt", "proc", "root", "run", "sbin",
    "srv", "sys", "tmp", "usr", "var"].map ([·]) ++
  [["dev", "fd"], ["dev", "shm"], ["proc", "self"], ["proc", "self", "fd"], ["usr", "bin"],
    ["usr", "lib"], ["usr", "local"], ["usr", "sbin"], ["usr", "share"], ["var", "lib"],
    ["var", "log"], ["var", "tmp"]]

/-- The devices, by their steps from the root. A run has no terminal of its own. -/
def devices : List (List String × Device) :=
  ["null", "zero", "random", "urandom", "stdin"].map (fun name => (["dev", name], .drop)) ++
  [(["dev", "full"], .refuse), (["dev", "stdout"], .print), (["dev", "stderr"], .report),
    (["dev", "tty"], .terminal)] ++
  [["dev", "fd"], ["proc", "self", "fd"]].flatMap fun folder =>
    [(folder ++ ["0"], .drop), (folder ++ ["1"], .print), (folder ++ ["2"], .report)]

/-- Texts of the system, by their steps from the root; none of them is JSON or a database. -/
def systemTexts : List (List String × String) :=
  [(["etc", "passwd"], "root:x:0:0:root:/root:/bin/bash\n"), (["etc", "group"], "root:x:0:\n"),
    (["etc", "hosts"], "127.0.0.1 localhost\n")]

/-! ## Paths -/

/-- What a path leads to. -/
inductive Place where
  | folder
  | file (name : String)
  /-- A name that no file has. -/
  | vacant (name : String)
  | device (d : Device)
  /-- A file outside the folder. -/
  | foreign (text : String)
  /-- A name outside the folder that no file has. -/
  | elsewhere
  deriving DecidableEq, Repr

/-- A part of a path that stays in the folder. -/
def stays (part : String) : Bool :=
  part.isEmpty || part == "."

/-- The most bytes of a name. -/
def nameLimit : Nat := 255

/-- The most bytes of a path. -/
def pathLimit : Nat := 4095

/-- Something that is no folder, if nothing follows it in the path. -/
def atEnd (place : Place) (rest : List String) : Except FileError Place :=
  if rest.isEmpty then .ok place else .error .notFolder

/-- Whether no file can be made at these steps from the root. -/
def isClosed (steps : List String) : Bool :=
  steps.head? == some "proc" || ["dev", "fd"].isPrefixOf steps

/-- Where a path leads from a folder outside; its steps from the root may not be known. -/
def outside (steps : Option (List String)) : List String → Except FileError Place
  | [] => .ok .folder
  | part :: rest =>
    if stays part then outside steps rest
    else if part == ".." then outside (steps.map List.dropLast) rest
    else if nameLimit < part.utf8ByteSize then .error .nameTooLong
    else
      match steps.map (· ++ [part]) with
      | none => if rest.isEmpty then .ok .elsewhere else .error .missing
      | some here =>
        if systemFolders.contains here then outside (some here) rest
        else
          match devices.lookup here, systemTexts.lookup here with
          | some d, _ => atEnd (.device d) rest
          | none, some text => atEnd (.foreign text) rest
          | none, none =>
            if rest.isEmpty && !isClosed here then .ok .elsewhere else .error .missing

def placeOf (f : Folder) : List String → Except FileError Place
  | [] => .ok .folder
  | part :: rest =>
    if stays part then placeOf f rest
    else if part == ".." then outside none rest
    else if nameLimit < part.utf8ByteSize then .error .nameTooLong
    else if (f.lookup part).isSome then atEnd (.file part) rest
    else if rest.isEmpty then .ok (.vacant part)
    else .error .missing

/-- Where a path leads. -/
def place (f : Folder) (path : String) : Except FileError Place :=
  if pathLimit < path.utf8ByteSize then .error .nameTooLong
  else
    match path.toList with
    | [] => .error .missing
    | '/' :: cs => outside (some []) ((Text.pieces (· == '/') cs).map String.ofList)
    | cs => f.placeOf ((Text.pieces (· == '/') cs).map String.ofList)

/-! ## Reading -/

def read (f : Folder) (path : String) : Except FileError String := do
  match ← f.place path with
  | .folder => .error .isFolder
  | .vacant _ | .elsewhere => .error .missing
  | .file name => .ok ((f.lookup name).getD "")
  | .foreign text => .ok text
  | .device .terminal => .error .noDevice
  | .device _ => .ok ""

/-- The bytes of a file. A device that prints can only be written to. -/
def readBytes (f : Folder) (path : String) : Except FileError (List UInt8) := do
  match ← f.place path with
  | .device .print | .device .report => .error .missing
  | _ => (f.read path).map fun text => text.toUTF8.toList

/-- What is seen of the files in a folder. -/
def files (f : Folder) : Files where
  text := f.read
  bytes := f.readBytes

/-! ## Writing -/

/-- The folder with this text in the file of that name. -/
def put (f : Folder) (name text : String) : Folder :=
  match f with
  | [] => [(name, text)]
  | (n, t) :: rest => if n == name then (n, text) :: rest else (n, t) :: put rest name text

/-- The folder without the file at a path. -/
def remove (f : Folder) (path : String) : Folder :=
  match f.place path with
  | .ok (.file name) => f.filter fun entry => entry.1 != name
  | _ => f

/-- The path without the slashes at its end, but for that of the root. -/
def unslashed (path : String) : String :=
  let bare := (path.toList.reverse.dropWhile (· == '/')).reverse
  if bare.isEmpty && !path.isEmpty then "/" else String.ofList bare

/-- Makes an empty file, or empties the one that is there, and gives what can be written to. A path
with a slash at its end asks for a folder, which cannot be made so. -/
def create (f : Folder) (path : String) : Except FileError (Target × Folder) :=
  let bare := unslashed path
  if pathLimit < path.utf8ByteSize then .error .nameTooLong
  else
    match f.place bare with
    | .ok .folder => .error .isFolder
    | .error .nameTooLong => .error (if bare = path then .nameTooLong else .isFolder)
    | .error e => .error e
    | .ok place =>
      if bare ≠ path then .error .isFolder
      else
        match place with
        | .file name | .vacant name => .ok (.file name, f.put name "")
        | .device .terminal => .error .noDevice
        | .device d => .ok (.device d, f)
        | _ => .ok (.device .drop, f)

/-! ## Reading what was written -/

theorem lookup_put (f : Folder) (name text n : String) :
    (f.put name text).lookup n = if n = name then some text else f.lookup n := by
  induction f with
  | nil => by_cases h : n = name <;> simp [put, List.lookup_cons, h, beq_eq_false_iff_ne.2]
  | cons entry rest ih =>
    obtain ⟨m, t⟩ := entry
    by_cases found : m = name
    · subst found
      by_cases h : n = m <;> simp [put, List.lookup_cons, h, beq_eq_false_iff_ne.2]
    · simp only [put, beq_eq_false_iff_ne.2 found, List.lookup_cons, ih,
        Bool.false_eq_true, if_false]
      by_cases h : n = m
      · subst h
        simp [found]
      · simp [h, beq_eq_false_iff_ne.2]

/-- A place that is a name in the folder. -/
def Place.Names (name : String) (place : Place) : Prop :=
  place = .file name ∨ place = .vacant name

theorem atEnd_eq_ok {place place' : Place} {rest : List String}
    (h : atEnd place rest = .ok place') : rest = [] ∧ place' = place := by
  unfold atEnd at h
  split at h
  · rename_i last
    cases h
    exact ⟨List.isEmpty_iff.1 last, rfl⟩
  · cases h

theorem not_names_outside {steps : Option (List String)} {parts : List String} {place : Place}
    {name : String} (h : outside steps parts = .ok place) : ¬place.Names name := by
  induction parts generalizing steps with
  | nil => cases h; simp [Place.Names]
  | cons part rest ih =>
    unfold outside at h
    split at h
    · exact ih h
    split at h
    · exact ih h
    split at h
    · cases h
    split at h
    · split at h <;> cases h
      simp [Place.Names]
    split at h
    · exact ih h
    split at h
    · rw [(atEnd_eq_ok h).2]
      simp [Place.Names]
    · rw [(atEnd_eq_ok h).2]
      simp [Place.Names]
    · split at h <;> cases h
      simp [Place.Names]

theorem placeOf_put {f : Folder} {parts : List String} {place : Place} {name : String}
    (h : f.placeOf parts = .ok place) (names : place.Names name) (text : String) :
    (f.put name text).placeOf parts = .ok (.file name) := by
  induction parts with
  | nil => cases h; simp [Place.Names] at names
  | cons part rest ih =>
    unfold placeOf at h ⊢
    split at h
    · rw [if_pos ‹_›]
      exact ih h
    rw [if_neg ‹_›]
    split at h
    · exact absurd names (not_names_outside h)
    rw [if_neg ‹_›]
    split at h
    · cases h
    rw [if_neg ‹_›]
    -- The path ends in the name, which is that of a file or of none.
    have last : rest = [] ∧ part = name := by
      split at h
      · obtain ⟨last, rfl⟩ := atEnd_eq_ok h
        exact ⟨last, by simpa [Place.Names] using names⟩
      · split at h <;> cases h
        exact ⟨List.isEmpty_iff.1 ‹_›, by simpa [Place.Names] using names⟩
    obtain ⟨rfl, rfl⟩ := last
    simp [lookup_put, atEnd]

theorem place_put {f : Folder} {path : String} {place : Place} {name : String}
    (h : f.place path = .ok place) (names : place.Names name) (text : String) :
    (f.put name text).place path = .ok (.file name) := by
  unfold Folder.place at h ⊢
  split at h
  · cases h
  rw [if_neg ‹_›]
  split at h
  · cases h
  · exact absurd names (not_names_outside h)
  · exact placeOf_put h names text

theorem create_eq_file {f f' : Folder} {path name : String}
    (h : f.create path = .ok (.file name, f')) :
    (∃ place, f.place path = .ok place ∧ place.Names name) ∧ f' = f.put name "" := by
  unfold create at h
  split at h
  · cases h
  extract_lets bare at h
  split at h
  · cases h
  · cases h
  · cases h
  rename_i place _ found
  split at h
  · cases h
  rename_i unslashed
  rw [Decidable.not_not.1 unslashed] at found
  split at h <;> cases h
  · exact ⟨⟨_, found, .inl rfl⟩, rfl⟩
  · exact ⟨⟨_, found, .inr rfl⟩, rfl⟩

theorem read_put {f f' : Folder} {path name : String} (text : String)
    (h : f.create path = .ok (.file name, f')) :
    (f'.put name text).read path = .ok text ∧
      (f'.put name text).readBytes path = .ok text.toUTF8.toList := by
  obtain ⟨⟨place, found, names⟩, rfl⟩ := create_eq_file h
  have emptied := place_put found names ""
  have written := place_put emptied (.inl rfl) text
  have read : ((f.put name "").put name text).read path = .ok text := by
    simp only [Folder.read, written, lookup_put]
    change Except.ok _ = _
    simp
  refine ⟨read, ?_⟩
  simp [readBytes, written, read]
  rfl

instance : FileSystem Folder where
  files := files
  create := create
  put := put
  remove := remove
  text_put text h := (read_put text h).1
  bytes_put text h := (read_put text h).2

end Folder

end CatalogReport
