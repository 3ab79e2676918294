import Typecase.Family
import Typecase.Files.Fault

/-!
# Streams and the copy loop

A stream is a script of what its reads will answer. `Stream.pump` drains it through a buffer of
fixed size. `Stream.content` says what the stream delivers without any buffer, so the two can be
compared.

Only reads can fail here. What a stream is pumped into takes every write, whole, so a pump has no
exit for a write that fails.
-/

namespace Typecase

inductive StreamItem where
  /-- Bytes that come in pieces no larger than the buffer. No bytes at all mean the end. -/
  | data (bytes : Bytes)
  /-- One read that is interrupted and may be asked again. -/
  | interrupted
  | fails (text : String)
  deriving DecidableEq, Repr

/-- A stream ends where its items end. -/
abbrev Stream := List StreamItem

/-- What one read gives. No bytes mean that the end is reached. -/
inductive ReadAnswer where
  | bytes (chunk : Bytes)
  | interrupted
  | failed (cause : IoFault)
  deriving DecidableEq, Repr

namespace Stream

def ofBytes (bytes : Bytes) : Stream := [.data bytes]

/-- One read into a buffer of the given size. It never crosses into the next item. -/
def read (size : Nat) : Stream → ReadAnswer × Stream
  | [] => (.bytes [], [])
  | .data bytes :: rest =>
    match bytes.drop size with
    | [] => (.bytes bytes, rest)
    | left => (.bytes (bytes.take size), .data left :: rest)
  | .interrupted :: rest => (.interrupted, rest)
  | .fails text :: rest => (.failed (.reported text), rest)

theorem read_data (size : Nat) (bytes : Bytes) (rest : Stream) :
    read size (.data bytes :: rest) =
      if bytes.length ≤ size then (.bytes bytes, rest)
      else (.bytes (bytes.take size), .data (bytes.drop size) :: rest) := by
  cases left : bytes.drop size with
  | nil => simp [read, left, List.drop_eq_nil_iff.1 left]
  | cons b bs =>
    have long : ¬bytes.length ≤ size := fun short => by
      simp [List.drop_eq_nil_of_le short] at left
    simp [read, left, long]

/-! ## What an answer tells of the stream -/

variable {size : Nat} {s rest : Stream}

theorem read_eq_end (pos : 0 < size) (h : s.read size = (.bytes [], rest)) :
    s = [] ∨ ∃ tail, s = .data [] :: tail := by
  rcases s with _ | ⟨bytes | _ | _, tail⟩
  · exact .inl rfl
  · rw [read_data] at h
    split at h
    · obtain ⟨none_left, -⟩ := Prod.mk.inj h
      obtain rfl := ReadAnswer.bytes.inj none_left
      exact .inr ⟨tail, rfl⟩
    · rename_i long
      have taken := ReadAnswer.bytes.inj (Prod.mk.inj h).1
      have := congrArg List.length taken
      rw [List.length_take, List.length_nil] at this
      omega
  · simp [read] at h
  · simp [read] at h

/-- The bytes are the whole first item, or they fill the buffer and some are left of the item. -/
theorem read_eq_bytes {b : UInt8} {bs : Bytes} (h : s.read size = (.bytes (b :: bs), rest)) :
    (s = .data (b :: bs) :: rest ∧ (b :: bs).length ≤ size) ∨
    ∃ left tail, left ≠ [] ∧ (b :: bs).length = size ∧ s = .data (b :: bs ++ left) :: tail ∧
      rest = .data left :: tail := by
  rcases s with _ | ⟨bytes | _ | _, tail⟩
  · simp [read] at h
  · rw [read_data] at h
    split at h
    · rename_i short
      obtain ⟨whole, rfl⟩ := Prod.mk.inj h
      obtain rfl := ReadAnswer.bytes.inj whole
      exact .inl ⟨rfl, short⟩
    · rename_i long
      obtain ⟨taken, rfl⟩ := Prod.mk.inj h
      refine .inr ⟨bytes.drop size, tail, by simpa using long, ?_, ?_, rfl⟩
      · rw [← ReadAnswer.bytes.inj taken, List.length_take]
        omega
      · rw [← ReadAnswer.bytes.inj taken, List.take_append_drop]
  · simp [read] at h
  · simp [read] at h

theorem read_eq_interrupted (h : s.read size = (.interrupted, rest)) : s = .interrupted :: rest := by
  rcases s with _ | ⟨bytes | _ | _, tail⟩
  · simp [read] at h
  · rw [read_data] at h
    split at h <;> simp at h
  · obtain ⟨-, rfl⟩ := Prod.mk.inj h
    rfl
  · simp [read] at h

theorem read_eq_failed {cause : IoFault} (h : s.read size = (.failed cause, rest)) :
    ∃ text, s = .fails text :: rest ∧ cause = .reported text := by
  rcases s with _ | ⟨bytes | _ | text, tail⟩
  · simp [read] at h
  · rw [read_data] at h
    split at h <;> simp at h
  · simp [read] at h
  · obtain ⟨failed, rfl⟩ := Prod.mk.inj h
    exact ⟨text, rfl, (ReadAnswer.failed.inj failed).symm⟩

/-! ## What a stream delivers -/

/-- The bytes before the first end or failure, and the failure if there is one. -/
def content : Stream → Bytes × Option IoFault
  | [] => ([], none)
  | .data [] :: _ => ([], none)
  | .data bytes :: rest => (bytes ++ (content rest).1, (content rest).2)
  | .interrupted :: rest => content rest
  | .fails text :: _ => ([], some (.reported text))

def readAll (s : Stream) : Except IoFault Bytes :=
  match s.content with
  | (bytes, none) => .ok bytes
  | (_, some cause) => .error cause

/-! ## The copy loop -/

/-- What a pump has done: the chunks it wrote, the sizes of the buffers it read into, one for each
read, and the failure it met. -/
structure Pumped where
  chunks : List Bytes
  buffers : List Nat
  fault : Option IoFault
  deriving DecidableEq, Repr

def Pumped.written (p : Pumped) : Bytes := p.chunks.flatten

/-- Items count once and their bytes once more. A read that goes on lowers this. -/
def weight : Stream → Nat
  | [] => 0
  | .data bytes :: rest => bytes.length + 1 + weight rest
  | _ :: rest => 1 + weight rest

theorem weight_read_of_bytes {b : UInt8} {bs : Bytes}
    (h : s.read size = (.bytes (b :: bs), rest)) : weight rest < weight s := by
  rcases read_eq_bytes h with ⟨rfl, -⟩ | ⟨left, tail, -, -, rfl, rfl⟩
  · simp [weight]
  · simp only [weight, List.length_append, List.length_cons]
    omega

theorem weight_read_of_interrupted (h : s.read size = (.interrupted, rest)) :
    weight rest < weight s := by
  rw [read_eq_interrupted h]
  simp [weight]

/-- Reads until the end or a failure. Goes on after interruptions. `chunks` holds what is written
already, and `buffers` what was read into, both newest first. Each chunk is written whole. -/
def pumpFrom (size : Nat) (s : Stream) (chunks : List Bytes) (buffers : List Nat) : Pumped :=
  match h : s.read size with
  | (.bytes [], _) => ⟨chunks.reverse, (size :: buffers).reverse, none⟩
  | (.bytes (b :: bs), rest) => pumpFrom size rest ((b :: bs) :: chunks) (size :: buffers)
  | (.interrupted, rest) => pumpFrom size rest chunks (size :: buffers)
  | (.failed cause, _) => ⟨chunks.reverse, (size :: buffers).reverse, some cause⟩
termination_by weight s
decreasing_by
  · exact weight_read_of_bytes h
  · exact weight_read_of_interrupted h

def pump (size : Nat) (s : Stream) : Pumped := pumpFrom size s [] []

end Stream

end Typecase
