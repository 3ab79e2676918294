import Typecase.Font.Directory

/-!
# How font files are laid out

The bytes of a face that has the tables `head` and `maxp` only, alone in its file or in a
collection.
-/

namespace Typecase.Font

/-- A number in `size` bytes, the highest first. Of a larger number only the lowest bytes stay. -/
def big : (size : Nat) → Nat → Bytes
  | 0, _ => []
  | size + 1, n => big size (n / 256) ++ [UInt8.ofNat n]

/-! ## Directories -/

/-- A record with a checksum that nobody has computed. -/
def TableRecord.bytes (r : TableRecord) : Bytes :=
  [big 4 r.tag, big 4 0, big 4 r.offset, big 4 r.length].flatten

/-- A directory. The three search fields are those of two tables. -/
def Directory.bytes (d : Directory) : Bytes :=
  [big 4 d.version, big 2 d.records.length, big 2 32, big 2 1, big 2 0].flatten ++
    d.records.flatMap TableRecord.bytes

/-! ## Faces -/

/-- What the tables of a face say. -/
structure Face where
  unitsPerEm : UInt16
  glyphs : UInt16
  deriving DecidableEq, Repr

namespace Face

/-- The `head` table. Dates, bounding box and style are all zero. -/
def head (face : Face) : Bytes :=
  [big 2 1, big 2 0, big 4 0x00010000, big 4 0, big 4 0x5F0F3CF5, big 2 0,
    big 2 face.unitsPerEm.toNat, List.replicate 16 0, List.replicate 8 0, big 2 0, big 2 8,
    big 2 2, big 2 0, big 2 0].flatten

/-- The `maxp` table, in version 0.5. -/
def maxp (face : Face) : Bytes := big 4 0x00005000 ++ big 2 face.glyphs.toNat

/-- The directory of a face that stands at `base` in its file. -/
def directory (base : Nat) : Directory where
  version := 0x00010000
  records := [⟨headTag, base + 44, 54⟩, ⟨maxpTag, base + 100, 6⟩]

/-- A face that stands at `base`. Its tables are padded to whole words. -/
def bytesAt (face : Face) (base : Nat) : Bytes :=
  [(directory base).bytes, face.head, [0, 0], face.maxp, [0, 0]].flatten

def size : Nat := 108

end Face

/-! ## Files -/

def single (face : Face) : Bytes := face.bytesAt 0

/-- Where a face stands in a collection. -/
def faceOffset (count index : Nat) : Nat := 12 + 4 * count + Face.size * index

def offsets (count : Nat) : List Bytes :=
  (List.range count).map fun index => big 4 (faceOffset count index)

def bodies (faces : List Face) : List Bytes :=
  faces.mapIdx fun index face => face.bytesAt (faceOffset faces.length index)

/-- A collection of version 1.0: where each face stands, then the faces. -/
def collection (faces : List Face) : Bytes :=
  [big 4 ttcfTag, big 2 1, big 2 0, big 4 faces.length].flatten ++
    ((offsets faces.length).flatten ++ (bodies faces).flatten)

end Typecase.Font
