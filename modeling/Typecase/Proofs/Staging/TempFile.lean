import Typecase.Files.Stream.Lemmas
import Typecase.Proofs.Staging.FirstFree

/-!
# What a temp file does to the files

Filling a temp file changes its bytes, and releasing it leaves the files as they were before it was
taken.
-/

namespace Typecase

variable {σ : Type}

namespace Stager

/-! ## Copying -/

/-- A buffer of the size that was asked for can exist. -/
def CanBuffer (s : Stager) : Prop := s.bufferSize ≤ maxBuffer

instance (s : Stager) : Decidable s.CanBuffer := inferInstanceAs (Decidable (_ ≤ _))

def copyOutcome (s : Stager) (p : Path) (source : Stream) : Except (Halt StagingFault) Nat :=
  if maxBuffer < s.bufferSize then .error .noBuffer
  else match source.content.2 with
    | none => .ok source.content.1.length
    | some why => .error (.fault (.write p why))

/-- What a copy leaves in the file. -/
def copied (s : Stager) (source : Stream) : Bytes :=
  if maxBuffer < s.bufferSize then [] else source.content.1

theorem bufferSize_pos (s : Stager) : 0 < s.bufferSize :=
  Nat.lt_of_lt_of_le Nat.zero_lt_one (Nat.le_max_right _ 1)

theorem readAll_eq_ok_iff (source : Stream) (bytes : Bytes) :
    source.readAll = .ok bytes ↔ source.content = (bytes, none) := by
  rw [Stream.readAll]
  split
  · rename_i found hcontent
    rw [hcontent, Except.ok.injEq, Prod.mk.injEq, eq_self, and_true]
  · rename_i found why hcontent
    simp [hcontent]

theorem readAll_eq_error_iff (source : Stream) (why : IoFault) :
    source.readAll = .error why ↔ source.content.2 = some why := by
  rw [Stream.readAll]
  split
  · rename_i found hcontent
    simp [hcontent]
  · rename_i found fault hcontent
    rw [hcontent, Except.error.injEq, Option.some.injEq]

theorem copyOutcome_eq_ok_iff {s : Stager} {p : Path} (source : Stream) (n : Nat) :
    s.copyOutcome p source = .ok n ↔
      s.CanBuffer ∧ ∃ bytes, source.content = (bytes, none) ∧ n = bytes.length := by
  unfold copyOutcome CanBuffer
  split
  · rename_i hlarge
    simp [Nat.not_le.mpr hlarge]
  · rename_i hfits
    obtain ⟨bytes, fault⟩ := source.content
    cases fault with
    | none => simp [Nat.le_of_not_lt hfits, eq_comm]
    | some why => simp

theorem copyOutcome_eq_noBuffer_iff (s : Stager) (p : Path) (source : Stream) :
    s.copyOutcome p source = .error .noBuffer ↔ ¬ s.CanBuffer := by
  unfold copyOutcome CanBuffer
  split
  · rename_i hlarge
    simpa using hlarge
  · rename_i hfits
    cases source.content.2 <;> simpa using hfits

theorem copied_of_ok {s : Stager} {p : Path} {source : Stream} {n : Nat}
    (h : s.copyOutcome p source = .ok n) : source.content = (s.copied source, none) := by
  obtain ⟨hbuffer, bytes, hcontent, -⟩ := (copyOutcome_eq_ok_iff source n).mp h
  rw [copied, if_neg (Nat.not_lt.mpr hbuffer), hcontent]

section

variable {p : Path} {scene : Scene σ}

theorem copyToFile_of_refused (s : Stager) {why : OsFault}
    (h : scene.files.openEmptied p = .error why) (source : Stream) :
    ∃ notes, s.copyToFile p source scene =
      (⟨.error (.fault (.write p (.os why))), []⟩, { scene with notes }) := by
  simp only [copyToFile, Act.bind_apply, Act.files_apply, h]
  exact ⟨_, rfl⟩

theorem files_copyToFile_of_refused {s : Stager} {why : OsFault}
    (h : scene.files.openEmptied p = .error why) (source : Stream) :
    (s.copyToFile p source scene).2.files = scene.files := by
  obtain ⟨notes, hcopy⟩ := s.copyToFile_of_refused h source
  rw [hcopy]

variable {body : Nat} {files : Store}

/-- A copy to a file that opens, through a buffer that can exist. -/
theorem copyToFile_of_canBuffer {s : Stager} (hbuffer : s.CanBuffer)
    (hopen : scene.files.openEmptied p = .ok (body, files)) (source : Stream) :
    ∃ notes, s.copyToFile p source scene =
      (⟨s.copyOutcome p source, (source.pump s.bufferSize).buffers⟩,
        { scene with files := files.setBody body source.content.1, notes }) := by
  have hfits : ¬maxBuffer < s.bufferSize := Nat.not_lt.mpr hbuffer
  have hpump := Stream.content_eq_pump (bufferSize_pos s) source
  simp only [copyToFile, copyOutcome, Act.bind_apply, Act.files_apply, hopen, if_neg hfits,
    Act.setFiles_apply, hpump]
  cases hfault : (source.pump s.bufferSize).fault with
  | none => exact ⟨scene.notes, rfl⟩
  | some why => exact ⟨_, rfl⟩

theorem copyToFile_of_opened (s : Stager)
    (hopen : scene.files.openEmptied p = .ok (body, files)) (source : Stream) :
    ∃ buffers notes, s.copyToFile p source scene =
      (⟨s.copyOutcome p source, buffers⟩,
        { scene with files := files.setBody body (s.copied source), notes }) := by
  by_cases hlarge : maxBuffer < s.bufferSize
  · refine ⟨[], scene.notes, ?_⟩
    rw [copied, copyOutcome, if_pos hlarge, if_pos hlarge, Store.setBody_of_openEmptied hopen]
    simp only [copyToFile, Act.bind_apply, Act.files_apply, hopen, if_pos hlarge]
    rfl
  · obtain ⟨notes, hcopy⟩ := copyToFile_of_canBuffer (Nat.not_lt.mp hlarge) hopen source
    rw [copied, if_neg hlarge]
    exact ⟨_, notes, hcopy⟩

end

/-- A copy into a temp file changes its bytes. If it succeeds, they are all that the stream
delivers. -/
theorem copyToFile_staged (s : Stager) {p : Path} {place : Place} {base : Store} {old : Bytes}
    {scene : Scene σ} (hp : base.Names p place) (hnone : base.look place = none)
    (hfiles : scene.files = base.staged place old) (source : Stream) :
    ∃ bytes notes, (s.copyToFile p source scene).1.outcome = s.copyOutcome p source ∧
      (s.copyToFile p source scene).2 = { scene with files := base.staged place bytes, notes } ∧
      ∀ n, s.copyOutcome p source = .ok n → source.readAll = .ok bytes := by
  have hplace := hp.ne_root
  have hnames : scene.files.Names p place := by
    rw [hfiles]
    exact (Store.sameElsewhere_staged base hplace old).names hp (by simp [hnone])
  have hlook : scene.files.look place = some (.file base.bodies.length) := by
    rw [hfiles, Store.look_staged_self base hplace]
  obtain ⟨buffers, notes, hcopy⟩ :=
    s.copyToFile_of_opened (hnames.openEmptied hlook) source
  rw [hcopy, hfiles, Store.setBody_staged, Store.setBody_staged]
  refine ⟨s.copied source, notes, rfl, rfl, fun n hn => ?_⟩
  rw [readAll_eq_ok_iff, copied_of_ok hn]

/-! ## Fills -/

/-- A way to fill temp files. How it ends depends on the path alone, and if it ends well, the file
holds the bytes of the source. -/
def Fills (fill : TempFile → Act σ (Except (Halt StagingFault) Nat))
    (outcome : Path → Except (Halt StagingFault) Nat) (source : Option Bytes) : Prop :=
  ∀ (p : Path) (place : Place) (base : Store) (scene : Scene σ), base.Names p place →
    base.look place = none → scene.files = base.staged place [] →
    ∃ bytes notes calls,
      fill ⟨p⟩ scene = (outcome p, { scene with files := base.staged place bytes, notes, calls }) ∧
      ∀ n, outcome p = .ok n → source = some bytes

theorem fills_copyBufferToFile (s : Stager) (bytes : Bytes) :
    Fills (σ := σ) (fun staged => s.copyBufferToFile staged.path bytes)
      (fun p => s.copyOutcome p (.ofBytes bytes)) (some bytes) := by
  intro p place base scene hp hnone hfiles
  obtain ⟨held, notes, houtcome, hscene, hheld⟩ :=
    s.copyToFile_staged hp hnone hfiles (.ofBytes bytes)
  refine ⟨held, notes, scene.calls, ?_, ?_⟩
  · simp only [copyBufferToFile, Act.bind_apply, Act.pure_apply, houtcome, hscene]
  · intro n hn
    have := hheld n hn
    rw [readAll_eq_ok_iff, Stream.content_ofBytes, Prod.mk.injEq] at this
    rw [this.1]

def resourceOutcome (s : Stager) (resources : Resources) (id : ResourceId) (p : Path) :
    Except (Halt StagingFault) Nat :=
  match resources.openRaw id with
  | .error why => .error (.fault (.resource why))
  | .ok stream => s.copyOutcome p stream

theorem resourceOutcome_of_unopened {s : Stager} {resources : Resources} {id : ResourceId}
    {why : ResourceFault} (hopen : resources.openRaw id = .error why) (p : Path) :
    s.resourceOutcome resources id p = .error (.fault (.resource why)) := by
  simp only [resourceOutcome, hopen]

theorem resourceOutcome_of_unread {s : Stager} (hbuffer : s.CanBuffer) {resources : Resources}
    {id : ResourceId} {stream : Stream} {cause : IoFault}
    (hopen : resources.openRaw id = .ok stream) (hread : stream.readAll = .error cause) (p : Path) :
    s.resourceOutcome resources id p = .error (.fault (.write p cause)) := by
  rw [readAll_eq_error_iff] at hread
  simp only [resourceOutcome, hopen, copyOutcome, if_neg (Nat.not_lt.mpr hbuffer), hread]

theorem resourceOutcome_eq_noBuffer_iff (s : Stager) (resources : Resources) (id : ResourceId)
    (p : Path) :
    s.resourceOutcome resources id p = .error .noBuffer ↔
      ¬ s.CanBuffer ∧ ∃ stream, resources.openRaw id = .ok stream := by
  unfold resourceOutcome
  cases resources.openRaw id with
  | error why => simp
  | ok stream => simp [copyOutcome_eq_noBuffer_iff]

end Stager

/-- All bytes of a resource, if it opens and delivers to its end. -/
def Resources.bytes? (resources : Resources) (id : ResourceId) : Option Bytes :=
  (resources.openRaw id).toOption.bind fun stream => stream.readAll.toOption

theorem Resources.bytes?_eq_some_iff {resources : Resources} {id : ResourceId} {stream : Stream}
    (h : resources.openRaw id = .ok stream) (bytes : Bytes) :
    resources.bytes? id = some bytes ↔ stream.content = (bytes, none) := by
  rw [← Stager.readAll_eq_ok_iff, bytes?, h]
  change stream.readAll.toOption = some bytes ↔ _
  cases stream.readAll <;> simp [Except.toOption]

theorem Stager.resourceOutcome_eq_ok_iff {s : Stager} {p : Path} (resources : Resources)
    (id : ResourceId) (n : Nat) :
    s.resourceOutcome resources id p = .ok n ↔
      s.CanBuffer ∧ ∃ bytes, resources.bytes? id = some bytes ∧ n = bytes.length := by
  unfold resourceOutcome
  cases hopen : resources.openRaw id with
  | error why => simp [Resources.bytes?, hopen, Except.toOption]
  | ok stream => simp only [copyOutcome_eq_ok_iff, Resources.bytes?_eq_some_iff hopen]

theorem Stager.fills_copyResourceToFile (s : Stager) (resources : Resources) (id : ResourceId) :
    Fills (σ := σ) (fun staged => s.copyResourceToFile staged.path resources id)
      (s.resourceOutcome resources id) (resources.bytes? id) := by
  intro p place base scene hp hnone hfiles
  simp only [copyResourceToFile, Resources.askStream, resourceOutcome, Resources.bytes?,
    Act.bind_apply, Act.called_apply, Act.pure_apply]
  cases hopen : resources.openRaw id with
  | error why => exact ⟨[], scene.notes, _, by rw [← hfiles]; rfl, by simp⟩
  | ok stream =>
    have hfiles' : ({ scene with calls := scene.calls ++ [.openResource id] } : Scene σ).files =
        base.staged place [] := hfiles
    obtain ⟨held, notes, houtcome, hscene, hheld⟩ := s.copyToFile_staged hp hnone hfiles' stream
    refine ⟨held, notes, scene.calls ++ [.openResource id], ?_, ?_⟩
    · simp only [Act.bind_apply, Act.pure_apply, houtcome, hscene]
    · intro n hn
      simp [hheld n hn, Except.toOption]

/-! ## Releasing -/

theorem TempFile.outside_release (t : TempFile) (scene : Scene σ) :
    (t.release scene).2.outside = scene.outside := by
  simp only [release, Act.bind_apply, Act.files_apply]
  cases scene.files.unlink t.path with
  | ok files => rfl
  | error why => cases why <;> rfl

/-- A temp file leaves no trace, whatever became of it in the meantime. -/
theorem TempFile.release_sameSight {p : Path} {place : Place} {base : Store} {scene : Scene σ}
    (hp : base.Names p place) (hnone : base.look place = none)
    (h : base.SameElsewhere place scene.files) :
    base.SameSight ((⟨p⟩ : TempFile).release scene).2.files := by
  have hnames : scene.files.Names p place := h.names hp (by simp [hnone])
  simp only [release, Act.bind_apply, Act.files_apply]
  cases hlook : scene.files.look place with
  | none =>
    rw [hnames.unlink_of_none hlook]
    exact Store.sameSight_of_nothing hnone h hlook
  | some node =>
    cases node with
    | directory => exact absurd ((Store.sight_eq_directory_iff _ _).mpr hlook) h.2
    | file b =>
      rw [hnames.unlink_of_file hlook]
      exact Store.sameSight_remove hp.ne_root hnone h

end Typecase
