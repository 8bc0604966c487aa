/-!
# File systems

What a run sees of files and does to them. Making a file gives a target to write to; a text that is
written to a file is read back at the path that the file was made at.
-/

namespace CatalogReport

/-- Why a file cannot be read or written. -/
inductive FileError where
  | missing
  | notFolder
  | isFolder
  | nameTooLong
  /-- A device that takes nothing. -/
  | noSpace
  | noDevice
  | other (text : String)
  deriving DecidableEq, Repr

def FileError.message : FileError → String
  | .missing => "No such file or directory (os error 2)"
  | .notFolder => "Not a directory (os error 20)"
  | .isFolder => "Is a directory (os error 21)"
  | .nameTooLong => "File name too long (os error 36)"
  | .noSpace => "No space left on device (os error 28)"
  | .noDevice => "No such device or address (os error 6)"
  | .other text => text

/-- What a device does with the text that it takes. -/
inductive Device where
  | drop
  | refuse
  | print
  /-- Prints with the errors. -/
  | report
  /-- Prints, and shows what is printed. -/
  | terminal
  deriving DecidableEq, Repr

/-- What is seen of files: their texts and their bytes. -/
structure Files where
  text : String → Except FileError String
  bytes : String → Except FileError (List UInt8)

/-- What a text can be written to. -/
inductive Target where
  | file (name : String)
  | device (d : Device)
  deriving DecidableEq, Repr

/-- What a run needs of files whose states are in `σ`. -/
class FileSystem (σ : Type) where
  /-- What is seen of the files in a state. -/
  files : σ → Files
  /-- Makes an empty file at a path, or empties the one that is there. -/
  create : σ → String → Except FileError (Target × σ)
  /-- Writes the text of the file with a name. -/
  put : σ → String → String → σ
  /-- Removes the file at a path if it is there. -/
  remove : σ → String → σ
  text_put : ∀ {s s' : σ} {path name : String} (text : String),
    create s path = .ok (.file name, s') → (files (put s' name text)).text path = .ok text
  bytes_put : ∀ {s s' : σ} {path name : String} (text : String),
    create s path = .ok (.file name, s') →
      (files (put s' name text)).bytes path = .ok text.toUTF8.toList

end CatalogReport
