import Mathlib.Algebra.Group.Nat.Defs
import Mathlib.Data.List.Infix
import Typecase.Font.Layout

/-!
# Reading a directory back

Bytes stand at an offset if what is there begins with them. A number that stands in a file is read
as itself, and so is a directory. Of a directory that is cut short, nothing is read.
-/

namespace Typecase.Font

/-! ## Numbers -/

@[simp] theorem length_big (size n : Nat) : (big size n).length = size := by
  induction size generalizing n with
  | zero => rfl
  | succ size ih => rw [big, List.length_append, ih, List.length_singleton]

theorem number_snoc (bytes : Bytes) (b : UInt8) :
    number (bytes ++ [b]) = 256 * number bytes + b.toNat := by
  rw [number, List.foldl_append]
  rfl

theorem number_big {size n : Nat} (h : n < 256 ^ size) : number (big size n) = n := by
  induction size generalizing n with
  | zero =>
    obtain rfl : n = 0 := by omega
    rfl
  | succ size ih =>
    have hdiv : n / 256 < 256 ^ size := by
      rw [Nat.pow_succ] at h
      omega
    have hlow : (UInt8.ofNat n).toNat = n % 256 := UInt8.toNat_ofNat'
    rw [big, number_snoc, ih hdiv, hlow]
    omega

variable {data bytes : Bytes} {size n : Nat}

theorem number_take (h : big size n <+: bytes) (hn : n < 256 ^ size) :
    number (bytes.take size) = n := by
  have htake := List.prefix_iff_eq_take.mp h
  rw [length_big] at htake
  rw [← htake, number_big hn]

/-! ## Fields -/

/-- What stands in a part of a file stands in the file. -/
theorem prefix_drop_trans {inner : Bytes} {offset base : Nat} (h : inner <+: bytes.drop offset)
    (hbytes : bytes <+: data.drop base) : inner <+: data.drop (base + offset) := by
  rw [← List.drop_drop]
  exact h.trans (hbytes.drop offset)

theorem end_le_length {offset : Nat} (h : bytes <+: data.drop offset) (hbytes : bytes ≠ []) :
    offset + bytes.length ≤ data.length := by
  have hle := h.length_le
  have hpos := List.length_pos_iff.mpr hbytes
  rw [List.length_drop] at hle
  omega

theorem field_eq {offset : Nat} (h : big size n <+: data.drop offset) (hn : n < 256 ^ size)
    (hsize : 0 < size) : field data offset size = .ok n := by
  have hthere : big size n ≠ [] := by
    apply List.ne_nil_of_length_pos
    rw [length_big]
    exact hsize
  have hend := end_le_length h hthere
  rw [length_big] at hend
  rw [field, if_pos hend, number_take h hn]

theorem field_of_short {offset : Nat} (h : data.length < offset + size) :
    field data offset size = .error .outOfBounds := by
  rw [field, if_neg (Nat.not_le.mpr h)]

/-! ## Records -/

/-- All numbers of the record have room in their fields. -/
structure TableRecord.Fits (r : TableRecord) : Prop where
  tag : r.tag < 256 ^ 4
  offset : r.offset < 256 ^ 4
  length : r.length < 256 ^ 4

namespace Directory

theorem readRecords_eq {records : List TableRecord} (hfits : ∀ r ∈ records, r.Fits) {bytes : Bytes}
    (h : records.flatMap TableRecord.bytes <+: bytes) :
    readRecords records.length bytes = records := by
  induction records generalizing bytes with
  | nil => rfl
  | cons r records ih =>
    obtain ⟨hr, hrest⟩ := List.forall_mem_cons.mp hfits
    rw [List.flatMap_cons] at h
    have htag : number (bytes.take 4) = r.tag :=
      number_take (.trans ⟨_, rfl⟩ h) hr.tag
    have hoffset : number ((bytes.drop 8).take 4) = r.offset :=
      number_take (.trans ⟨_, rfl⟩ (h.drop 8)) hr.offset
    have hlength : number ((bytes.drop 12).take 4) = r.length :=
      number_take (.trans ⟨_, rfl⟩ (h.drop 12)) hr.length
    rw [List.length_cons, readRecords, htag, hoffset, hlength, ih hrest (h.drop recordSize)]

/-! ## Directories -/

structure Fits (d : Directory) : Prop where
  version : d.version ∈ knownVersions
  count : d.records.length < 256 ^ 2
  records : ∀ r ∈ d.records, r.Fits

theorem length_bytes (d : Directory) :
    d.bytes.length = headerSize + recordSize * d.records.length := by
  have hrecord (r : TableRecord) : r.bytes.length = recordSize := rfl
  have hrecords : (d.records.flatMap TableRecord.bytes).length = recordSize * d.records.length := by
    simp [List.length_flatMap, hrecord, Nat.mul_comm]
  rw [bytes, List.length_append, hrecords]
  rfl

theorem version_lt {version : Nat} (h : version ∈ knownVersions) : version < 256 ^ 4 := by
  revert version
  decide

theorem read_eq {d : Directory} (hfits : d.Fits) {bytes : Bytes} (h : d.bytes <+: bytes) :
    read bytes = .ok d := by
  have hcount : field bytes 4 2 = .ok d.records.length :=
    field_eq (.trans ⟨_, rfl⟩ (h.drop 4)) hfits.count Nat.two_pos
  have hversion : field bytes 0 4 = .ok d.version :=
    field_eq (.trans ⟨_, rfl⟩ (h.drop 0)) (version_lt hfits.version) (by decide)
  have hlength : ¬ bytes.length < headerSize + recordSize * d.records.length := by
    rw [← length_bytes]
    exact Nat.not_lt.mpr h.length_le
  have hrecords : readRecords d.records.length (bytes.drop headerSize) = d.records :=
    readRecords_eq hfits.records (h.drop headerSize)
  simp only [read, hcount, hversion, hrecords, bind, Except.bind, if_neg hlength,
    not_not.mpr hfits.version, if_false]
  rfl

/-- A directory that is cut short is not read at all. -/
theorem read_take {d : Directory} (hfits : d.Fits) {bytes : Bytes} (h : d.bytes <+: bytes) {n : Nat}
    (hn : n < d.bytes.length) : read (bytes.take n) = .error .outOfBounds := by
  have hle := h.length_le
  have hlength : (bytes.take n).length = n := by
    rw [List.length_take]
    omega
  by_cases hshort : n < 4 + 2
  · have hcount : field (bytes.take n) 4 2 = .error .outOfBounds :=
      field_of_short (by omega)
    simp only [read, hcount, bind, Except.bind]
  · have hthere : big 2 d.records.length <+: (bytes.take n).drop 4 := by
      rw [List.drop_take, List.prefix_take_iff, length_big]
      exact ⟨.trans ⟨_, rfl⟩ (h.drop 4), by omega⟩
    have hcount := field_eq hthere hfits.count Nat.two_pos
    -- The number of records can be read, but there are fewer bytes than they take.
    have hcut : (bytes.take n).length < headerSize + recordSize * d.records.length := by
      rw [← length_bytes]
      omega
    simp only [read, hcount, bind, Except.bind, if_pos hcut]
    rfl

end Directory

end Typecase.Font
