import Typecase.Proofs.Files.Script
import Typecase.Proofs.Staging.TempFile

/-!
# Copies are exact

A copy leaves in the file what the stream delivers and no other byte. How large the buffer is, and
how often the stream is interrupted, shows in the number of reads only.
-/

namespace Typecase.Stager

variable {σ : Type} {s : Stager} {p : Path} {scene : Scene σ} {body : Nat} {files : Store}

theorem copyOutcome_of_canBuffer (hbuffer : s.CanBuffer) (source : Stream) :
    s.copyOutcome p source =
      match source.ending with
      | none => .ok source.delivered.length
      | some why => .error (.fault (.write p why)) := by
  have hfits : ¬maxBuffer < s.bufferSize := Nat.not_lt.mpr hbuffer
  cases hend : source.ending with
  | none => rw [copyOutcome, if_neg hfits, Stream.content_eq, hend]
  | some why => rw [copyOutcome, if_neg hfits, Stream.content_eq, hend]

theorem copyToFile_eq (hbuffer : s.CanBuffer)
    (hopen : scene.files.openEmptied p = .ok (body, files)) (source : Stream) :
    ∃ notes, s.copyToFile p source scene =
      (⟨s.copyOutcome p source, List.replicate (source.readCount s.bufferSize) s.bufferSize⟩,
        { scene with files := files.setBody body source.delivered, notes }) := by
  obtain ⟨notes, hcopy⟩ := copyToFile_of_canBuffer hbuffer hopen source
  rw [Stream.content_eq, Stream.buffers_pump (bufferSize_pos s)] at hcopy
  exact ⟨notes, hcopy⟩

theorem CopyReport.buffer_eq {report : CopyReport} {size : Nat} (hread : 0 < report.reads)
    (hsame : ∀ given ∈ report.buffers, given = size) : report.buffer = size := by
  obtain ⟨given, hgiven⟩ := List.exists_mem_of_length_pos hread
  obtain rfl := hsame given hgiven
  have hmax : report.buffers.max? = some given :=
    List.max?_eq_some_iff.mpr ⟨hgiven, fun other hother => Nat.le_of_eq (hsame other hother)⟩
  rw [buffer, hmax, Option.getD_some]

/-- Other buffers and other interruptions make no difference. -/
theorem copyToFile_congr {s' : Stager} (hbuffer : s.CanBuffer) (hbuffer' : s'.CanBuffer)
    (hopen : scene.files.openEmptied p = .ok (body, files)) {source source' : Stream}
    (h : source'.uninterrupted = source.uninterrupted) :
    (s'.copyToFile p source' scene).1.outcome = (s.copyToFile p source scene).1.outcome ∧
      (s'.copyToFile p source' scene).2.files = (s.copyToFile p source scene).2.files := by
  obtain ⟨notes, hcopy⟩ := copyToFile_of_canBuffer hbuffer hopen source
  obtain ⟨notes', hcopy'⟩ := copyToFile_of_canBuffer hbuffer' hopen source'
  have hcontent : source'.content = source.content := by
    rw [← Stream.content_uninterrupted, h, Stream.content_uninterrupted]
  have houtcome : s'.copyOutcome p source' = s.copyOutcome p source := by
    rw [copyOutcome, copyOutcome, if_neg (Nat.not_lt.mpr hbuffer),
      if_neg (Nat.not_lt.mpr hbuffer'), hcontent]
  rw [hcopy, hcopy', hcontent]
  exact ⟨houtcome, rfl⟩

theorem copyBufferToFile_eq (hbuffer : s.CanBuffer)
    (hopen : scene.files.openEmptied p = .ok (body, files)) (bytes : Bytes) :
    ∃ notes, s.copyBufferToFile p bytes scene =
      (.ok bytes.length, { scene with files := files.setBody body bytes, notes }) := by
  obtain ⟨notes, hcopy⟩ := copyToFile_of_canBuffer hbuffer hopen (.ofBytes bytes)
  rw [Stream.content_ofBytes] at hcopy
  have houtcome : s.copyOutcome p (.ofBytes bytes) = .ok bytes.length := by
    rw [copyOutcome, if_neg (Nat.not_lt.mpr hbuffer), Stream.content_ofBytes]
  refine ⟨notes, ?_⟩
  simp only [copyBufferToFile, Act.bind_apply, Act.pure_apply, hcopy, houtcome]

/-- **A copy is exact.** The file that was opened holds what the stream delivers before its first
end or failure, whatever it held before. At the end the bytes are counted, and a failure is reported
with the path. The stream is read once for each interruption before that, once for each full buffer
of an item and once for the rest of it, and once more. Each read is given a buffer of the one size.
Copies through other buffers, or with other interruptions, end alike and leave the same files, and
so does a copy of the bytes themselves. -/
theorem copy_is_exact (s : Stager) (hbuffer : s.CanBuffer) (p : Path) (scene : Scene σ)
    {body : Nat} {files : Store} (hopen : scene.files.openEmptied p = .ok (body, files))
    (source : Stream) :
    let copy := s.copyToFile p source scene
    let bytes := source.delivered
    let size := max s.settings.chunkSize 1
    (source.ending = none → copy.1.outcome = .ok bytes.length) ∧
    (∀ why, source.ending = some why → copy.1.outcome = .error (.fault (.write p why))) ∧
    copy.2.files.read p = .ok bytes ∧
    copy.1.reads = (source.ahead.map (StreamItem.reads size)).sum + 1 ∧
    (∀ given ∈ copy.1.buffers, given = size) ∧ copy.1.buffer = size ∧
    (∀ (s' : Stager) (source' : Stream), s'.CanBuffer →
      source'.uninterrupted = source.uninterrupted →
      (s'.copyToFile p source' scene).1.outcome = copy.1.outcome ∧
        (s'.copyToFile p source' scene).2.files = copy.2.files) ∧
    ∀ s' : Stager, s'.CanBuffer →
      (s'.copyBufferToFile p bytes scene).1 = .ok bytes.length ∧
        (s'.copyBufferToFile p bytes scene).2.files = copy.2.files := by
  intro copy bytes size
  obtain ⟨notes, hcopy⟩ := copyToFile_eq hbuffer hopen source
  have houtcome : copy.1.outcome = s.copyOutcome p source := by rw [show copy = _ from hcopy]
  have hfiles : copy.2.files = files.setBody body bytes := by rw [show copy = _ from hcopy]
  have hbuffers : copy.1.buffers = List.replicate (source.readCount size) size := by
    rw [show copy = _ from hcopy]
    rfl
  have hreads : copy.1.reads = source.readCount size := by
    rw [CopyReport.reads, hbuffers, List.length_replicate]
  have hsame : ∀ given ∈ copy.1.buffers, given = size := by
    rw [hbuffers]
    exact fun given hgiven => List.eq_of_mem_replicate hgiven
  rw [copyOutcome_of_canBuffer hbuffer] at houtcome
  refine ⟨?_, ?_, ?_, hreads, hsame, ?_, ?_, ?_⟩
  · intro hend
    rw [houtcome, hend]
  · intro why hend
    rw [houtcome, hend]
  · rw [hfiles]
    exact Store.read_of_openEmptied hopen bytes
  · exact CopyReport.buffer_eq (hreads ▸ Nat.succ_pos _) hsame
  · intro s' source' hbuffer' hsame
    exact copyToFile_congr hbuffer hbuffer' hopen hsame
  · intro s' hbuffer'
    obtain ⟨notes', hplain⟩ := copyBufferToFile_eq hbuffer' hopen bytes
    rw [hplain, hfiles]
    exact ⟨rfl, rfl⟩

/-! ## A stream in pieces -/

/-- Five bytes come in two items, with interruptions, and more would follow after the end. -/
def raggedStream : Stream :=
  [.interrupted, .data [1, 2, 3], .interrupted, .interrupted, .data [4, 5], .data [], .data [9]]

/-- A file is there already, and it is longer than the stream. -/
def crowdedScene : Scene Nat where
  files := (Store.empty.write ⟨"/f"⟩ [7, 7, 7, 7, 7, 7, 7]).toOption.getD .empty
  outside := 0

theorem ragged_copy_is_exact :
    let s : Stager := ⟨{ chunkSize := 2 }, ⟨7, 3⟩⟩
    let copy := s.copyToFile ⟨"/f"⟩ raggedStream crowdedScene
    s.CanBuffer ∧ copy.1.outcome = .ok 5 ∧ copy.2.files.read ⟨"/f"⟩ = .ok [1, 2, 3, 4, 5] ∧
      copy.1.reads = 7 ∧ (∀ given ∈ copy.1.buffers, given = 2) ∧ copy.1.buffer = 2 := by
  intro s copy
  have hbuffer : s.CanBuffer := by decide
  have hopens : (crowdedScene.files.openEmptied ⟨"/f"⟩).isOk := by decide +kernel
  rcases hopen : crowdedScene.files.openEmptied ⟨"/f"⟩ with why | ⟨body, files⟩
  · simp [hopen, Except.isOk, Except.toBool] at hopens
  · obtain ⟨hends, -, hread, hreads, hsame, hsize, -, -⟩ :=
      copy_is_exact s hbuffer ⟨"/f"⟩ crowdedScene hopen raggedStream
    exact ⟨hbuffer, hends (by decide), hread, hreads.trans (by decide), hsame, hsize⟩

end Typecase.Stager
