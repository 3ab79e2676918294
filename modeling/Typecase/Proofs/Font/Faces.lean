import Typecase.Font.FontData
import Typecase.Proofs.Font.Directory

/-!
# Reading a face back

A font file gives back what it was built from. Each face is found through its offset, its tables
through its own directory, and bytes after the last face make no difference.
-/

namespace Typecase

namespace Font

/-! ## Tables -/

theorem Directory.table_eq {d : Directory} {r : TableRecord} {data bytes : Bytes}
    (hfind : d.records.find? (·.tag == r.tag) = some r) (hoffset : r.offset ≠ 0)
    (hlength : bytes.length = r.length) (hbytes : bytes ≠ []) (h : bytes <+: data.drop r.offset) :
    d.table data r.tag = some bytes := by
  have hend := end_le_length h hbytes
  have htake := List.prefix_iff_eq_take.mp h
  have hthere : ¬ data.length < r.offset + r.length := by omega
  rw [hlength] at htake
  simp [table, hfind, hoffset, hthere, ← htake]

variable {face : Face} {base : Nat} {data : Bytes}

theorem table_head (h : face.bytesAt base <+: data.drop base) :
    (Face.directory base).table data headTag = some face.head := by
  have hhead : face.head <+: (face.bytesAt base).drop 44 := ⟨_, rfl⟩
  have hfile : face.head <+: data.drop (base + 44) := prefix_drop_trans hhead h
  exact Directory.table_eq (r := ⟨headTag, base + 44, 54⟩) rfl (Nat.succ_ne_zero _) rfl
    (by simp [Face.head, big]) hfile

theorem table_maxp (h : face.bytesAt base <+: data.drop base) :
    (Face.directory base).table data maxpTag = some face.maxp := by
  have hmaxp : face.maxp <+: (face.bytesAt base).drop 100 := ⟨_, rfl⟩
  have hfile : face.maxp <+: data.drop (base + 100) := prefix_drop_trans hmaxp h
  exact Directory.table_eq (r := ⟨maxpTag, base + 100, 6⟩) rfl (Nat.succ_ne_zero _) rfl
    (by simp [Face.maxp, big]) hfile

theorem unitsPerEm_eq (h : face.bytesAt base <+: data.drop base) :
    unitsPerEm (Face.directory base) data = face.unitsPerEm.toNat := by
  have hunits : big 2 face.unitsPerEm.toNat <+: face.head.drop 18 := ⟨_, rfl⟩
  have hlength : 54 ≤ face.head.length := le_of_eq rfl
  simp only [unitsPerEm, table_head h, if_pos hlength]
  exact number_take hunits face.unitsPerEm.toNat_lt

theorem glyphCount_eq (h : face.bytesAt base <+: data.drop base) :
    glyphCount (Face.directory base) data = some face.glyphs.toNat := by
  have hglyphs : big 2 face.glyphs.toNat <+: face.maxp.drop 4 := ⟨[], rfl⟩
  have hnumber : number ((face.maxp.drop 4).take 2) = face.glyphs.toNat :=
    number_take hglyphs face.glyphs.toNat_lt
  have hversion : number (face.maxp.take 2) = 0 := rfl
  have hlength : face.maxp.length = 6 := rfl
  simp [glyphCount, table_maxp h, hnumber, hversion, hlength]

/-! ## Directories of faces -/

theorem Face.fits_directory (h : base + size ≤ 256 ^ 4) : (directory base).Fits := by
  have hbase : base + 108 ≤ 256 ^ 4 := h
  have hhead : TableRecord.Fits ⟨headTag, base + 44, 54⟩ :=
    ⟨(by decide : headTag < 256 ^ 4), (by omega : base + 44 < 256 ^ 4), (by decide : 54 < 256 ^ 4)⟩
  have hmaxp : TableRecord.Fits ⟨maxpTag, base + 100, 6⟩ :=
    ⟨(by decide : maxpTag < 256 ^ 4), (by omega : base + 100 < 256 ^ 4), (by decide : 6 < 256 ^ 4)⟩
  refine ⟨(by decide : 0x00010000 ∈ Directory.knownVersions), (by decide : 2 < 256 ^ 2), ?_⟩
  simp [directory, hhead, hmaxp]

theorem Face.prefix_bytesAt (face : Face) (base : Nat) :
    (directory base).bytes <+: face.bytesAt base := by
  rw [bytesAt, List.flatten_cons]
  exact List.prefix_append _ _

theorem read_face (h : face.bytesAt base <+: data.drop base) (hbase : base + Face.size ≤ 256 ^ 4) :
    Directory.read (data.drop base) = .ok (Face.directory base) :=
  Directory.read_eq (Face.fits_directory hbase) ((face.prefix_bytesAt base).trans h)

end Font

open Font

/-- The font is this face of the data, which it keeps as they are. -/
structure FontData.Shows (font : FontData) (data : Bytes) (index : UInt32) (face : Face) :
    Prop where
  data : font.data = data
  index : font.face = index
  unitsPerEm : font.unitsPerEm = face.unitsPerEm.toNat
  glyphCount : font.glyphCount = some face.glyphs.toNat

namespace FontData

theorem ofFace_shows {data : Bytes} {index : UInt32} {face : Face} {base : Nat}
    (hdirectory : Font.directory data index.toNat = .ok (Face.directory base))
    (h : face.bytesAt base <+: data.drop base) :
    ∃ font, ofFace data index = .ok font ∧ font.Shows data index face := by
  refine ⟨⟨data, index, Font.unitsPerEm (Face.directory base) data⟩, ?_, rfl, rfl, ?_, ?_⟩
  · simp only [ofFace, hdirectory]
  · exact unitsPerEm_eq h
  · simp only [glyphCount, hdirectory]
    exact glyphCount_eq h

theorem ofFace_malformed {data : Bytes} {index : UInt32} {why : Font.Fault}
    (hdirectory : Font.directory data index.toNat = .error why) :
    ∃ reason, ofFace data index = .error (.malformed reason) := by
  simp only [ofFace, hdirectory]
  exact ⟨_, rfl⟩

end FontData

namespace Font

/-! ## Single faces -/

section

variable {face : Face} {data : Bytes}

theorem collectionCount_of_version (h : big 4 0x00010000 <+: data) :
    collectionCount data = none := by
  have hnumber : number (data.take 4) = 0x00010000 := number_take h (by decide)
  have htag : (number (data.take 4) == ttcfTag) = false := by
    rw [hnumber]
    rfl
  simp only [collectionCount, htag]
  cases (field data 4 2).toOption with
  | none => rfl
  | some major => cases (field data 8 4).toOption <;> simp

theorem collectionCount_of_short (h : data.length < 12) : collectionCount data = none := by
  have hcount : field data 8 4 = .error .outOfBounds := field_of_short h
  simp only [collectionCount, hcount]
  cases (field data 4 2).toOption <;> rfl

theorem directory_of_single (h : single face <+: data) (index : Nat) :
    directory data index =
      if index = 0 then .ok (Face.directory 0) else .error (.invalidIndex index) := by
  have hcount : collectionCount data = none :=
    collectionCount_of_version (.trans ⟨_, rfl⟩ h)
  have hread : Directory.read data = .ok (Face.directory 0) :=
    read_face (h : face.bytesAt 0 <+: data.drop 0) (by decide)
  simp only [directory, hcount, hread, bind, Except.bind]
  by_cases hindex : index = 0
  · rw [if_pos hindex, if_neg (not_not.mpr hindex)]
    rfl
  · rw [if_neg hindex, if_pos hindex]
    rfl

/-- A face that ends within its directory. -/
theorem directory_of_cut (face : Face) {n : Nat} (hn : n < 44) (index : Nat) :
    directory ((single face).take n) index = .error .outOfBounds := by
  -- What is left has no room for the header of a collection, or it begins with a version.
  have hcount : collectionCount ((single face).take n) = none := by
    by_cases hshort : n < 12
    · apply collectionCount_of_short
      rw [List.length_take]
      omega
    · apply collectionCount_of_version
      rw [List.prefix_take_iff, length_big]
      exact ⟨⟨_, rfl⟩, by omega⟩
  have hread : Directory.read ((single face).take n) = .error .outOfBounds :=
    Directory.read_take (Face.fits_directory (by decide)) (face.prefix_bytesAt 0) hn
  simp only [directory, hcount, hread]
  rfl

end

/-! ## Collections -/

theorem prefix_drop_flatten {size index : Nat} {block : Bytes} {blocks : List Bytes}
    (hsize : ∀ b ∈ blocks, b.length = size) (hblock : blocks[index]? = some block) :
    block <+: blocks.flatten.drop (size * index) := by
  induction blocks generalizing index with
  | nil => simp at hblock
  | cons first blocks ih =>
    obtain ⟨hfirst, hrest⟩ := List.forall_mem_cons.mp hsize
    cases index with
    | zero =>
      obtain rfl : first = block := by simpa using hblock
      exact List.prefix_append _ _
    | succ index =>
      have hinner := ih hrest (by simpa using hblock)
      rw [List.flatten_cons, Nat.mul_succ, Nat.add_comm, ← List.drop_drop, List.drop_left' hfirst]
      exact hinner

theorem length_flatten_of_size {size : Nat} {blocks : List Bytes}
    (hsize : ∀ b ∈ blocks, b.length = size) : blocks.flatten.length = size * blocks.length := by
  induction blocks with
  | nil => rfl
  | cons first blocks ih =>
    obtain ⟨hfirst, hrest⟩ := List.forall_mem_cons.mp hsize
    rw [List.flatten_cons, List.length_append, hfirst, ih hrest, List.length_cons, Nat.mul_succ,
      Nat.add_comm]

theorem size_offsets (count : Nat) : ∀ b ∈ offsets count, b.length = 4 := by
  intro b hb
  obtain ⟨index, -, rfl⟩ := List.mem_map.mp hb
  exact length_big 4 _

theorem size_bodies (faces : List Face) : ∀ b ∈ bodies faces, b.length = Face.size := by
  intro b hb
  obtain ⟨index, hindex, rfl⟩ := List.mem_mapIdx.mp hb
  rfl

theorem length_offsets (count : Nat) : (offsets count).flatten.length = 4 * count := by
  rw [length_flatten_of_size (size_offsets count), offsets, List.length_map, List.length_range]

section

variable {faces : List Face} {face : Face} {data : Bytes} {index : Nat}

theorem length_collection (faces : List Face) :
    (collection faces).length = faceOffset faces.length faces.length := by
  rw [collection, List.length_append, List.length_append, length_offsets,
    length_flatten_of_size (size_bodies faces), bodies, List.length_mapIdx, faceOffset,
    Nat.add_assoc]
  rfl

theorem prefix_drop_offset (hindex : index < faces.length) :
    big 4 (faceOffset faces.length index) <+: (collection faces).drop (12 + 4 * index) := by
  have hblock : (offsets faces.length)[index]? = some (big 4 (faceOffset faces.length index)) := by
    simp [offsets, hindex]
  have hoffsets : (offsets faces.length).flatten <+: (collection faces).drop 12 :=
    ⟨(bodies faces).flatten, rfl⟩
  exact prefix_drop_trans (prefix_drop_flatten (size_offsets _) hblock) hoffsets

theorem prefix_drop_face (hface : faces[index]? = some face) :
    face.bytesAt (faceOffset faces.length index) <+:
      (collection faces).drop (faceOffset faces.length index) := by
  have hblock : (bodies faces)[index]? =
      some (face.bytesAt (faceOffset faces.length index)) := by
    rw [bodies, List.getElem?_mapIdx, hface, Option.map_some]
  have hrest : (collection faces).drop 12 =
      (offsets faces.length).flatten ++ (bodies faces).flatten := rfl
  have hbodies : (bodies faces).flatten <+: (collection faces).drop (12 + 4 * faces.length) := by
    rw [← List.drop_drop, hrest, List.drop_left' (length_offsets _)]
  exact prefix_drop_trans (prefix_drop_flatten (size_bodies faces) hblock) hbodies

theorem collectionCount_of_collection (h : collection faces <+: data)
    (hsize : (collection faces).length < 256 ^ 4) :
    collectionCount data = some faces.length := by
  have hle := h.length_le
  rw [length_collection, faceOffset] at hsize hle
  have htag : number (data.take 4) = ttcfTag := number_take (.trans ⟨_, rfl⟩ h) (by decide)
  have hmajor : field data 4 2 = .ok 1 :=
    field_eq (.trans ⟨_, rfl⟩ (h.drop 4)) (by decide) Nat.two_pos
  have hcount : field data 8 4 = .ok faces.length :=
    field_eq (.trans ⟨_, rfl⟩ (h.drop 8)) (by omega) (by decide)
  have hlength : 12 + 4 * faces.length ≤ data.length := by omega
  simp [collectionCount, hmajor, hcount, htag, hlength, Except.toOption]

theorem directory_of_collection (h : collection faces <+: data)
    (hsize : (collection faces).length < 256 ^ 4) (hface : faces[index]? = some face) :
    directory data index = .ok (Face.directory (faceOffset faces.length index)) := by
  have hindex : index < faces.length := (List.getElem?_eq_some_iff.mp hface).1
  -- The offset fits in its field because the face after it ends within the collection.
  have hbody := (prefix_drop_face hface).trans (h.drop _)
  have hend : faceOffset faces.length index + Face.size ≤ (collection faces).length := by
    rw [length_collection, faceOffset, faceOffset, Nat.add_assoc, ← Nat.mul_succ]
    exact Nat.add_le_add_left (Nat.mul_le_mul_left _ hindex) _
  have hoffset : field data (12 + 4 * index) 4 = .ok (faceOffset faces.length index) :=
    field_eq ((prefix_drop_offset hindex).trans (h.drop _)) (by omega) (by decide)
  have hthere : ¬ data.length < faceOffset faces.length index := by
    have hle := h.length_le
    omega
  have hread := read_face hbody (by omega)
  simp only [directory, collectionCount_of_collection h hsize, if_neg (Nat.not_le.mpr hindex),
    hoffset, hread, bind, Except.bind, if_neg hthere]

theorem directory_of_collection_beyond (h : collection faces <+: data)
    (hsize : (collection faces).length < 256 ^ 4) (hindex : faces.length ≤ index) :
    directory data index = .error (.invalidIndex index) := by
  simp only [directory, collectionCount_of_collection h hsize, if_pos hindex]
  rfl

end

end Font

namespace FontData

/-- **Decoding recovers what a font file was built from.** A collection gives each of its faces
under its index and nothing under any other, whatever follows it, and keeps the bytes. A single face
is the face 0, and one that ends within its directory is malformed. -/
theorem decoding_recovers_faces :
    (∀ (faces : List Face) (rest : Bytes), (collection faces).length < 2 ^ 32 → ∀ index : UInt32,
      (∀ face, faces[index.toNat]? = some face →
        ∃ font, ofFace (collection faces ++ rest) index = .ok font ∧
          font.Shows (collection faces ++ rest) index face) ∧
      (faces.length ≤ index.toNat →
        ∃ reason, ofFace (collection faces ++ rest) index = .error (.malformed reason))) ∧
    (∀ (face : Face) (rest : Bytes),
      (∃ font, ofFace (single face ++ rest) 0 = .ok font ∧
        ofBytes (single face ++ rest) = .ok font ∧ font.Shows (single face ++ rest) 0 face) ∧
      ∀ index, index ≠ 0 →
        ∃ reason, ofFace (single face ++ rest) index = .error (.malformed reason)) ∧
    (∀ (face : Face) (n : Nat), n < (Face.directory 0).bytes.length → ∀ index : UInt32,
      ∃ reason, ofFace ((single face).take n) index = .error (.malformed reason)) := by
  refine ⟨?_, ?_, ?_⟩
  · intro faces rest hsize index
    have h : collection faces <+: collection faces ++ rest := List.prefix_append _ _
    refine ⟨fun face hface => ?_, fun hindex => ?_⟩
    · exact ofFace_shows (directory_of_collection h hsize hface)
        ((prefix_drop_face hface).trans (h.drop _))
    · exact ofFace_malformed (directory_of_collection_beyond h hsize hindex)
  · intro face rest
    have h : single face <+: single face ++ rest := List.prefix_append _ _
    refine ⟨?_, fun index hindex => ?_⟩
    · have hdirectory : directory (single face ++ rest) (0 : UInt32).toNat =
          .ok (Face.directory 0) := directory_of_single h 0
      obtain ⟨font, hfont, hshows⟩ := ofFace_shows hdirectory h
      exact ⟨font, hfont, hfont, hshows⟩
    · have hne : index.toNat ≠ 0 := fun hzero => hindex (UInt32.toNat_inj.mp hzero)
      exact ofFace_malformed ((directory_of_single h index.toNat).trans (if_neg hne))
  · intro face n hn index
    exact ofFace_malformed (directory_of_cut face hn index.toNat)

/-! ## Two faces -/

def twoFaces : List Face := [⟨1000, 3⟩, ⟨2048, 9⟩]

theorem twoFaces_are_recovered :
    (collection twoFaces).length < 2 ^ 32 ∧
    (∃ font, ofFace (collection twoFaces ++ [7]) 1 = .ok font ∧
      font.Shows (collection twoFaces ++ [7]) 1 ⟨2048, 9⟩) ∧
    (∃ reason, ofFace (collection twoFaces ++ [7]) 2 = .error (.malformed reason)) ∧
    ∃ reason, ofFace ((single ⟨1000, 1⟩).take 20) 0 = .error (.malformed reason) := by
  have hsize : (collection twoFaces).length < 2 ^ 32 := by
    rw [length_collection]
    decide
  have hfaces := decoding_recovers_faces.1 twoFaces [7] hsize
  have hcut : ∃ reason, ofFace ((single ⟨1000, 1⟩).take 20) 0 = .error (.malformed reason) :=
    decoding_recovers_faces.2.2 ⟨1000, 1⟩ 20 (by decide) 0
  exact ⟨hsize, (hfaces 1).1 ⟨2048, 9⟩ rfl, (hfaces 2).2 (by decide), hcut⟩

end FontData

end Typecase
