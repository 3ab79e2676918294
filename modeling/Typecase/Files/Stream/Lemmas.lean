import Typecase.Files.Stream

/-!
# The copy loop delivers what the stream holds

One lemma for each answer that a read can give, and from them `content_eq_pump`. A loop with any
buffer that is not empty writes `Stream.content` and meets its fault.
-/

namespace Typecase.Stream

@[simp] theorem content_ofBytes (bytes : Bytes) : content (ofBytes bytes) = (bytes, none) := by
  cases bytes <;> simp [ofBytes, content]

/-- A piece cut off the front of the first item leaves the same bytes to come. -/
theorem content_data_append (front back : Bytes) (rest : Stream) (h : back ≠ []) :
    content (.data (front ++ back) :: rest) =
      (front ++ (content (.data back :: rest)).1, (content (.data back :: rest)).2) := by
  cases front with
  | nil => rfl
  | cons b bs =>
    obtain ⟨c, cs, rfl⟩ := List.exists_cons_of_ne_nil h
    simp [content]

/-! ## One read -/

variable {size : Nat} {s rest : Stream}

theorem content_of_read_end (pos : 0 < size) (h : s.read size = (.bytes [], rest)) :
    content s = ([], none) := by
  rcases read_eq_end pos h with rfl | ⟨tail, rfl⟩ <;> rfl

theorem content_of_read_bytes {b : UInt8} {bs : Bytes}
    (h : s.read size = (.bytes (b :: bs), rest)) :
    content s = (b :: bs ++ (content rest).1, (content rest).2) := by
  rcases read_eq_bytes h with ⟨rfl, -⟩ | ⟨left, tail, some_left, -, rfl, rfl⟩
  · rfl
  · exact content_data_append _ _ _ some_left

theorem content_of_read_interrupted (h : s.read size = (.interrupted, rest)) :
    content s = content rest := by
  rw [read_eq_interrupted h]
  rfl

theorem content_of_read_failed {cause : IoFault} (h : s.read size = (.failed cause, rest)) :
    content s = ([], some cause) := by
  obtain ⟨text, rfl, rfl⟩ := read_eq_failed h
  rfl

/-! ## The whole loop -/

theorem written_fault_pumpFrom (pos : 0 < size) (s : Stream) (chunks : List Bytes)
    (buffers : List Nat) :
    (pumpFrom size s chunks buffers).written = chunks.reverse.flatten ++ (content s).1 ∧
      (pumpFrom size s chunks buffers).fault = (content s).2 := by
  fun_induction pumpFrom size s chunks buffers with
  | case1 s chunks buffers rest h => simp [Pumped.written, content_of_read_end pos h]
  | case2 s chunks buffers b bs rest h ih => simp [ih, content_of_read_bytes h]
  | case3 s chunks buffers rest h ih => simp [ih, content_of_read_interrupted h]
  | case4 s chunks buffers cause rest h => simp [Pumped.written, content_of_read_failed h]

/-- What comes through the buffer does not depend on its size. -/
theorem content_eq_pump (pos : 0 < size) (s : Stream) :
    content s = ((s.pump size).written, (s.pump size).fault) := by
  obtain ⟨written, fault⟩ := written_fault_pumpFrom pos s [] []
  rw [pump, written, fault]
  rfl

end Typecase.Stream
