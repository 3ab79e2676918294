import Mathlib.Algebra.GroupWithZero.Nat
import Typecase.Files.Stream.Lemmas

/-!
# What a script says beforehand

A stream is a script, so it says before any read what will be delivered, how it ends, and how often
a copy loop has to ask.
-/

namespace Typecase

namespace StreamItem

/-- The stream goes on after this item. -/
def goesOn : StreamItem → Bool
  | .data [] => false
  | .fails _ => false
  | _ => true

def payload : StreamItem → Bytes
  | .data bytes => bytes
  | _ => []

/-- How often an item is read. Bytes are read once for each full buffer, and once more for what is
left then. -/
def reads (size : Nat) : StreamItem → Nat
  | .data bytes => (bytes.length + size - 1) / size
  | _ => 1

end StreamItem

namespace Stream

/-- The items before the first end or failure. -/
def ahead (s : Stream) : Stream := s.takeWhile StreamItem.goesOn

def delivered (s : Stream) : Bytes := s.ahead.flatMap StreamItem.payload

/-- The failure that the stream ends in, if it ends in one. -/
def ending (s : Stream) : Option IoFault :=
  match s.dropWhile StreamItem.goesOn with
  | .fails text :: _ => some (.reported text)
  | _ => none

def uninterrupted (s : Stream) : Stream := s.filter (· != .interrupted)

/-! ## What is delivered -/

theorem content_eq (s : Stream) : s.content = (s.delivered, s.ending) := by
  induction s with
  | nil => rfl
  | cons item rest ih =>
    match item with
    | .data [] => rfl
    | .data (b :: bs) =>
      simp only [content, ih]
      rfl
    | .interrupted => exact ih
    | .fails text => rfl

theorem content_uninterrupted (s : Stream) : s.uninterrupted.content = s.content := by
  induction s with
  | nil => rfl
  | cons item rest ih =>
    match item with
    | .data [] => rfl
    | .data (b :: bs) => exact congrArg (fun c => (b :: bs ++ c.1, c.2)) ih
    | .interrupted => exact ih
    | .fails text => rfl

/-! ## How often is read -/

/-- The reads of all items, and one more that meets the end or the failure. -/
def readCount (size : Nat) (s : Stream) : Nat := (s.ahead.map (StreamItem.reads size)).sum + 1

variable {size : Nat} {s rest : Stream}

theorem readCount_of_stop {item : StreamItem} (h : item.goesOn = false) :
    readCount size (item :: rest) = 1 := by
  simp [readCount, ahead, h]

theorem readCount_cons {item : StreamItem} (h : item.goesOn = true) :
    readCount size (item :: rest) = item.reads size + readCount size rest := by
  simp [readCount, ahead, h, Nat.add_assoc]

theorem reads_data_of_short {bytes : Bytes} (some_left : bytes ≠ [])
    (short : bytes.length ≤ size) : (StreamItem.data bytes).reads size = 1 := by
  have hlen := List.length_pos_iff.mpr some_left
  rw [StreamItem.reads]
  exact Nat.div_eq_of_lt_le (by omega) (by omega)

/-- A full buffer is one of the reads. -/
theorem reads_data_append {front : Bytes} (pos : 0 < size) (full : front.length = size)
    (left : Bytes) :
    (StreamItem.data (front ++ left)).reads size = (StreamItem.data left).reads size + 1 := by
  have hsplit : size + left.length + size - 1 = left.length + size - 1 + size := by omega
  rw [StreamItem.reads, StreamItem.reads, List.length_append, full, hsplit,
    Nat.add_div_right _ pos]

theorem readCount_of_read_end (pos : 0 < size) (h : s.read size = (.bytes [], rest)) :
    readCount size s = 1 := by
  rcases read_eq_end pos h with rfl | ⟨tail, rfl⟩
  · rfl
  · exact readCount_of_stop rfl

theorem readCount_of_read_bytes (pos : 0 < size) {b : UInt8} {bs : Bytes}
    (h : s.read size = (.bytes (b :: bs), rest)) :
    readCount size s = readCount size rest + 1 := by
  rcases read_eq_bytes h with ⟨rfl, short⟩ | ⟨left, tail, some_left, full, rfl, rfl⟩
  · rw [readCount_cons rfl, reads_data_of_short (List.cons_ne_nil b bs) short, Nat.add_comm]
  · obtain ⟨c, cs, rfl⟩ := List.exists_cons_of_ne_nil some_left
    rw [readCount_cons rfl, readCount_cons rfl, reads_data_append pos full, Nat.add_right_comm]

theorem readCount_of_read_interrupted (h : s.read size = (.interrupted, rest)) :
    readCount size s = readCount size rest + 1 := by
  rw [read_eq_interrupted h, readCount_cons rfl, Nat.add_comm]
  rfl

theorem readCount_of_read_failed {cause : IoFault} (h : s.read size = (.failed cause, rest)) :
    readCount size s = 1 := by
  obtain ⟨text, rfl, -⟩ := read_eq_failed h
  exact readCount_of_stop rfl

/-- Each read is given the same buffer. -/
theorem buffers_pumpFrom (pos : 0 < size) (s : Stream) (chunks : List Bytes)
    (buffers : List Nat) :
    (pumpFrom size s chunks buffers).buffers =
      buffers.reverse ++ List.replicate (readCount size s) size := by
  fun_induction pumpFrom size s chunks buffers with
  | case1 s chunks buffers rest h => simp [readCount_of_read_end pos h]
  | case2 s chunks buffers b bs rest h ih =>
    simp [ih, readCount_of_read_bytes pos h, List.replicate_succ]
  | case3 s chunks buffers rest h ih =>
    simp [ih, readCount_of_read_interrupted h, List.replicate_succ]
  | case4 s chunks buffers cause rest h => simp [readCount_of_read_failed h]

theorem buffers_pump (pos : 0 < size) (s : Stream) :
    (s.pump size).buffers = List.replicate (readCount size s) size := by
  rw [pump, buffers_pumpFrom pos, List.reverse_nil, List.nil_append]

end Stream

end Typecase
