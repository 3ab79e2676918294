import Typecase.Family

/-!
# Font files: faces and their tables

A font file holds one face, or a collection that gives the offset of each face. A face starts with
a table directory. Numbers are big-endian, and table offsets count from the start of the file.
-/

namespace Typecase.Font

inductive Fault where
  | outOfBounds
  | invalidVersion (version : Nat)
  | invalidIndex (index : Nat)
  deriving DecidableEq, Repr

/-- A number in upper-case hexadecimal of at least eight digits. -/
def hex8 (n : Nat) : String :=
  let digits := (Nat.toDigits 16 n).map Char.toUpper
  String.ofList (List.replicate (8 - digits.length) '0' ++ digits)

def Fault.message : Fault → String
  | outOfBounds => "An offset was out of bounds"
  | invalidVersion version => "Invalid sfnt version 0x" ++ hex8 version
  | invalidIndex index => "Invalid index " ++ toString index ++ " for font collection"

/-! ## Fields -/

def number (bytes : Bytes) : Nat := bytes.foldl (fun n b => 256 * n + b.toNat) 0

/-- The number that stands in `size` bytes from `offset` on. -/
def field (data : Bytes) (offset size : Nat) : Except Fault Nat :=
  if offset + size ≤ data.length then .ok (number ((data.drop offset).take size))
  else .error .outOfBounds

/-! ## Table directories -/

abbrev Tag := Nat

def headTag : Tag := 0x68656164
def maxpTag : Tag := 0x6D617870
def ttcfTag : Tag := 0x74746366

structure TableRecord where
  tag : Tag
  offset : Nat
  length : Nat
  deriving DecidableEq, Repr

structure Directory where
  version : Nat
  records : List TableRecord
  deriving DecidableEq, Repr

namespace Directory

/-- The versions of faces with TrueType and with CFF outlines. -/
def knownVersions : List Nat := [0x00010000, 0x4F54544F, 0x74727565]

def headerSize : Nat := 12
def recordSize : Nat := 16

/-- Reads records that stand one after another. Each has a checksum after its tag. -/
def readRecords : (count : Nat) → Bytes → List TableRecord
  | 0, _ => []
  | count + 1, bytes =>
    { tag := number (bytes.take 4)
      offset := number ((bytes.drop 8).take 4)
      length := number ((bytes.drop 12).take 4) } :: readRecords count (bytes.drop recordSize)

/-- Reads the directory at the start of the bytes. All its records must be there. -/
def read (bytes : Bytes) : Except Fault Directory := do
  let count ← field bytes 4 2
  if bytes.length < headerSize + recordSize * count then throw .outOfBounds
  let version ← field bytes 0 4
  if version ∉ knownVersions then throw (.invalidVersion version)
  return ⟨version, readRecords count (bytes.drop headerSize)⟩

/-- The bytes of a table. Of several records with its tag the first one counts. -/
def table (d : Directory) (data : Bytes) (tag : Tag) : Option Bytes := do
  let r ← d.records.find? (·.tag == tag)
  if r.offset == 0 || data.length < r.offset + r.length then none
  else some ((data.drop r.offset).take r.length)

end Directory

/-! ## Collections -/

/-- How many faces a collection lists. Nothing if the bytes are no collection, or if they end
before its header does. -/
def collectionCount (data : Bytes) : Option Nat := do
  let major ← (field data 4 2).toOption
  let count ← (field data 8 4).toOption
  let signature := if major == 2 then 12 else 0
  if data.length < 12 + 4 * count + signature then none
  else if number (data.take 4) == ttcfTag then some count
  else none

/-- The directory of a face. A file that is no collection has only the face 0. -/
def directory (data : Bytes) (face : Nat) : Except Fault Directory :=
  match collectionCount data with
  | none => do
    let d ← Directory.read data
    if face ≠ 0 then throw (.invalidIndex face)
    return d
  | some count => do
    if count ≤ face then throw (.invalidIndex face)
    let offset ← field data (12 + 4 * face) 4
    if data.length < offset then throw .outOfBounds
    Directory.read (data.drop offset)

/-! ## What the tables say -/

/-- How many units make one em. Faces without a whole `head` table have a thousand. -/
def unitsPerEm (d : Directory) (data : Bytes) : Nat :=
  match d.table data headTag with
  | some head => if 54 ≤ head.length then number ((head.drop 18).take 2) else 1000
  | none => 1000

/-- How many glyphs there are, if a whole `maxp` table says so. Its version 1 is longer. -/
def glyphCount (d : Directory) (data : Bytes) : Option Nat := do
  let maxp ← d.table data maxpTag
  let size := if number (maxp.take 2) == 1 then 32 else 6
  if maxp.length < size then none else some (number ((maxp.drop 4).take 2))

end Typecase.Font
