import CatalogReport.Failure

/-!
# Database files

What a query finds in the bytes of a file. A file of at most one byte is a database without pages,
and an empty one. In another file a header of a hundred bytes must say what a database looks like,
and the first page must follow it; all that is understood of the page is whether it lists no
objects.
-/

namespace CatalogReport.Sqlite

/-- Why a query of a database fails. -/
inductive Fault where
  | notDatabase
  | malformed
  | newerFormat
  | locked
  /-- A change that was broken off cannot be taken back. -/
  | readOnly
  /-- The log of changes cannot be shared. -/
  | noLog
  deriving DecidableEq, Repr

namespace Fault

def code : Fault → Nat
  | .notDatabase => 26
  | .malformed => 11
  | .newerFormat => 1
  | .locked => 5
  | .readOnly => 776
  | .noLog => 14

def text : Fault → String
  | .notDatabase => "file is not a database"
  | .malformed => "database disk image is malformed"
  | .newerFormat => "unsupported file format"
  | .locked => "database is locked"
  | .readOnly => "attempt to write a readonly database"
  | .noLog => "unable to open database file"

/-- What the driver reports. -/
def failure (f : Fault) : Failure :=
  .driver ("error returned from database: (code: " ++ toString f.code ++ ") " ++ f.text)

end Fault

/-- The bytes of a file. -/
abbrev Image := List UInt8

namespace Image

def byte (image : Image) (place : Nat) : Nat :=
  (image.getD place 0).toNat

/-- The number in some bytes from a place on, the highest byte first. -/
def number (image : Image) (place : Nat) : Nat → Nat
  | 0 => 0
  | count + 1 => number image place count * 256 + image.byte (place + count)

/-- Whether a file has no pages. -/
def isBlank (image : Image) : Bool :=
  image.length ≤ 1

/-- What every database begins with, but for a last zero. -/
def magic : List UInt8 :=
  "SQLite format 3".toUTF8.toList

/-- Whether a file begins like a database that this engine can read. -/
def isKnown (image : Image) : Bool :=
  magic.isPrefixOf image && image.byte 15 = 0 && image.byte 19 ≤ 2

/-- Whether changes go to a log before they go to the file. -/
def keepsLog (image : Image) : Bool :=
  image.isKnown && image.byte 19 = 2

def pageSizes : List Nat :=
  [512, 1024, 2048, 4096, 8192, 16384, 32768, 65536]

def pageSize (image : Image) : Nat :=
  image.byte 16 * 256 + image.byte 17 * 65536

/-- How many pages the file has room for. -/
def pages (image : Image) : Nat :=
  (image.length + image.pageSize - 1) / image.pageSize

/-- Whether the header counts more pages than there are; its count matters only if the program that
wrote the count also made the last change. -/
def lacksPages (image : Image) : Bool :=
  image.number 24 4 = image.number 92 4 && image.pages < image.number 28 4

/-- Why the database in a file cannot be queried. -/
def fault? (image : Image) : Option Fault :=
  if image.isBlank then none
  else if !image.isKnown || [21, 22, 23].map image.byte ≠ [64, 32, 32] then some .notDatabase
  else if !pageSizes.contains image.pageSize then some .notDatabase
  else if image.lacksPages then some .malformed
  else if image.pageSize < image.byte 20 + 480 then some .notDatabase
  else if 4 < image.byte 47 then some .newerFormat
  else if image.byte 100 ≠ 13 || image.number 103 2 ≠ 0 then some .malformed
  else none

end Image

end CatalogReport.Sqlite
