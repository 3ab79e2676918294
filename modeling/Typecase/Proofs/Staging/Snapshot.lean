import Typecase.Proofs.Staging.Copy
import Typecase.Proofs.Staging.Ownership

/-!
# Resources in memory

A resource that was copied to memory is mapped from a file that has no name any more. All that is
done later is done by name, or to a new file, so nobody can change what the mapping shows.
-/

namespace Typecase

variable {σ : Type}

namespace Store

/-! ## Bodies without a name -/

/-- No name leads to the body, and it holds these bytes. -/
structure Nameless (s : Store) (b : Nat) (bytes : Bytes) : Prop where
  lt : b < s.bodies.length
  unnamed : ∀ place, s.look place ≠ some (.file b)
  body : s.body b = bytes

variable {s t : Store} {b : Nat} {bytes : Bytes}

/-- The file that was staged keeps its body when its name is removed. -/
theorem nameless_remove_staged {place : Place} (hroot : place ≠ []) (hnone : s.look place = none)
    (bytes : Bytes) :
    ((s.staged place bytes).remove place).Nameless s.bodies.length bytes where
  lt := by simp [remove, keep, staged, setBody, addFile]
  unnamed other hlook := by
    rw [look_remove_staged s hroot hnone] at hlook
    exact Nat.lt_irrefl _ (lt_of_look hlook)
  body := body_staged_self s place bytes

theorem Nameless.setBody (h : s.Nameless b bytes) {other : Nat} (hne : b ≠ other) (new : Bytes) :
    (s.setBody other new).Nameless b bytes where
  lt := by simpa [Store.setBody] using h.lt
  unnamed := h.unnamed
  body := (body_setBody_of_ne s hne new).trans h.body

theorem Nameless.addFile (h : s.Nameless b bytes) {place : Place} (hroot : place ≠ []) :
    (s.addFile place).Nameless b bytes where
  lt := by
    have hlt := h.lt
    simp only [Store.addFile, List.length_append]
    omega
  unnamed other hlook := by
    by_cases he : other = place
    · subst he
      rw [look_addFile_self s hroot, Option.some.injEq, Node.file.injEq] at hlook
      exact absurd h.lt (Nat.not_lt.mpr (Nat.le_of_eq hlook))
    · rw [look_addFile_of_ne s he] at hlook
      exact h.unnamed other hlook
  body := (body_addFile s place b).trans h.body

theorem Nameless.staged (h : s.Nameless b bytes) {place : Place} (hroot : place ≠ [])
    (new : Bytes) : (s.staged place new).Nameless b bytes :=
  (h.addFile hroot).setBody (Nat.ne_of_lt h.lt) new

theorem Nameless.remove (h : s.Nameless b bytes) (place : Place) :
    (s.remove place).Nameless b bytes where
  lt := h.lt
  unnamed other hlook := by
    by_cases he : other = place
    · subst he
      by_cases hroot : other = []
      · simp [hroot] at hlook
      · simp [look_remove_self s hroot] at hlook
    · rw [look_remove_of_ne s he] at hlook
      exact h.unnamed other hlook
  body := (body_remove s place b).trans h.body

/-- Whatever is opened by its name has another body. -/
theorem Nameless.openEmptied (h : s.Nameless b bytes) {p : Path} {other : Nat}
    (hopen : s.openEmptied p = .ok (other, t)) : b ≠ other ∧ t.Nameless b bytes := by
  rcases openEmptied_cases hopen with ⟨place, -, hlook, rfl⟩ | ⟨place, hp, -, rfl, rfl⟩
  · have hne : b ≠ other := by
      rintro rfl
      exact h.unnamed place hlook
    exact ⟨hne, h.setBody hne []⟩
  · exact ⟨Nat.ne_of_lt h.lt, h.addFile hp.ne_root⟩

theorem eq_remove_of_unlink {p : Path} (h : s.unlink p = .ok t) : ∃ place, t = s.remove place := by
  unfold unlink at h
  cases hfind : s.find p with
  | error why => simp [hfind, bind, Except.bind] at h
  | ok spot =>
    cases spot with
    | directory place => simp [hfind, bind, Except.bind] at h
    | child dir name slashed =>
      by_cases hname : name.utf8ByteSize > maxNameBytes
      · simp [hfind, bind, Except.bind, lookChild, hname] at h
      · simp only [hfind, bind, Except.bind, lookChild, if_neg hname] at h
        cases hlook : s.look (name :: dir) with
        | none => simp [hlook] at h
        | some node =>
          cases node with
          | directory => simp [hlook] at h
          | file other =>
            rw [hlook] at h
            cases slashed with
            | true => cases h
            | false =>
              cases h
              exact ⟨_, rfl⟩

end Store

theorem Mapping.bytes_of_nameless {m : Mapping} {files : Store} {bytes : Bytes}
    (h : files.Nameless m.body bytes) (hsize : m.size = bytes.length) :
    m.bytes files = some bytes := by
  simp [Mapping.bytes, h.body, hsize]

/-! ## Each chore leaves nameless bodies alone -/

section

variable {scene : Scene σ} {b : Nat} {bytes : Bytes}

theorem Stager.nameless_acquire (h : scene.files.Nameless b bytes) (s : Stager) (dir : Path) :
    (s.acquire dir scene).2.files.Nameless b bytes := by
  rcases s.acquire_cases dir scene with ⟨notes, hacquire⟩ | ⟨p, place, notes, hp, -, hacquire⟩
  · rw [hacquire]
    exact h
  · rw [hacquire]
    exact h.staged hp.ne_root []

theorem Stager.nameless_copyToFile (h : scene.files.Nameless b bytes) (s : Stager) (p : Path)
    (source : Stream) : (s.copyToFile p source scene).2.files.Nameless b bytes := by
  cases hopen : scene.files.openEmptied p with
  | error why =>
    rw [files_copyToFile_of_refused hopen]
    exact h
  | ok opened =>
    obtain ⟨buffers, notes, hcopy⟩ := s.copyToFile_of_opened hopen source
    obtain ⟨hne, hopened⟩ := h.openEmptied hopen
    rw [hcopy]
    exact hopened.setBody hne _

theorem Stager.nameless_copyResourceToBuffer (h : scene.files.Nameless b bytes) (s : Stager)
    (dir : Path) (resources : Resources) (id : ResourceId) :
    (s.copyResourceToBuffer dir resources id scene).2.files.Nameless b bytes := by
  rcases s.files_copyResourceToBuffer dir resources id scene with
    hfiles | ⟨p, new, hreach, -, hfiles⟩
  · rw [hfiles]
    exact h
  · rw [hfiles]
    exact (h.staged hreach.ne_root new).remove p.place

theorem TempFile.nameless_release (h : scene.files.Nameless b bytes) (t : TempFile) :
    (t.release scene).2.files.Nameless b bytes := by
  simp only [release, Act.bind_apply, Act.files_apply]
  cases hunlink : scene.files.unlink t.path with
  | ok files =>
    obtain ⟨place, rfl⟩ := Store.eq_remove_of_unlink hunlink
    exact h.remove place
  | error why => cases why <;> exact h

end

namespace Bench

theorem nameless_step {bench : Bench σ} {b : Nat} {bytes : Bytes}
    (h : bench.scene.files.Nameless b bytes) (chore : Chore) :
    (bench.step chore).2.scene.files.Nameless b bytes := by
  cases chore with
  | acquire s dir =>
    have hafter := s.nameless_acquire h dir
    simp only [step]
    cases hacquire : s.acquire dir bench.scene with
    | mk outcome after =>
      rw [hacquire] at hafter
      cases outcome <;> exact hafter
  | copy s target source =>
    simp only [step]
    cases bench.path? target with
    | none => exact h
    | some p => exact s.nameless_copyToFile h p source
  | map target =>
    simp only [step]
    cases bench.path? target with
    | none => exact h
    | some p =>
      rw [← files_mapReadOnly p bench.scene] at h
      exact h
  | buffer s dir resources id => exact s.nameless_copyResourceToBuffer h dir resources id
  | drop k =>
    simp only [step]
    cases bench.held[k]? with
    | none => exact h
    | some t => exact t.nameless_release h

theorem nameless_run {bench : Bench σ} {b : Nat} {bytes : Bytes}
    (h : bench.scene.files.Nameless b bytes) (chores : List Chore) :
    (bench.run chores).2.scene.files.Nameless b bytes := by
  induction chores generalizing bench with
  | nil => exact h
  | cons chore chores ih => exact ih (nameless_step h chore)

end Bench

/-! ## What a copy to memory shows -/

/-- **A resource in memory is a snapshot.** The mapping shows all that the stream delivers, and it
goes on showing that whatever chores are done later, by whom and with what in hand. Otherwise the
error is that of the names, of the resource or of the read that failed. No file is left either
way. -/
theorem Stager.resource_in_memory_is_snapshot (s : Stager) (hbuffer : s.CanBuffer) (dir : Path)
    (resources : Resources) (id : ResourceId) (scene : Scene σ) :
    let call := s.copyResourceToBuffer dir resources id scene
    scene.files.SameSight call.2.files ∧
    (s.firstFree dir scene.files = none →
      call.1 = .error (.fault (.exhausted dir s.settings.maxAttempts))) ∧
    ∀ p, s.firstFree dir scene.files = some p →
      (∀ why, resources.openRaw id = .error why → call.1 = .error (.fault (.resource why))) ∧
      ∀ stream, resources.openRaw id = .ok stream →
        (∀ cause, stream.ending = some cause → call.1 = .error (.fault (.write p cause))) ∧
        (stream.ending = none → ∃ m, call.1 = .ok m ∧
          m.bytes call.2.files = some stream.delivered ∧
          ∀ held chores, m.bytes ((⟨call.2, held⟩ : Bench σ).run chores).2.scene.files =
            some stream.delivered) := by
  intro call
  refine ⟨s.sameSight_copyResourceToBuffer dir resources id scene,
    fun hfree => (copyResourceToBuffer_of_none hfree resources id).1, ?_⟩
  intro p hfree
  obtain ⟨bytes, houtcome, hfiles, hbytes⟩ := copyResourceToBuffer_of_some hfree resources id
  refine ⟨?_, ?_⟩
  · intro why hopen
    rw [show call.1 = _ from houtcome, resourceOutcome_of_unopened hopen]
    rfl
  · intro stream hopen
    have hresource : s.resourceOutcome resources id p = s.copyOutcome p stream := by
      simp only [resourceOutcome, hopen]
    rw [copyOutcome_of_canBuffer hbuffer] at hresource
    refine ⟨?_, ?_⟩
    · intro cause hend
      rw [show call.1 = _ from houtcome, hresource, hend]
      rfl
    · intro hend
      rw [hend] at hresource
      have hdelivered : bytes = stream.delivered := by
        have hcontent := (Resources.bytes?_eq_some_iff hopen bytes).mp (hbytes _ hresource)
        rw [Stream.content_eq, hend, Prod.mk.injEq] at hcontent
        exact hcontent.1.symm
      subst hdelivered
      obtain ⟨-, hreach, hnone⟩ := firstFree_eq_some hfree
      have hnameless : call.2.files.Nameless scene.files.bodies.length stream.delivered := by
        rw [show call.2.files = _ from hfiles]
        exact Store.nameless_remove_staged hreach.ne_root hnone _
      refine ⟨⟨scene.files.bodies.length, stream.delivered.length⟩, ?_, ?_, ?_⟩
      · rw [show call.1 = _ from houtcome, hresource]
        rfl
      · exact Mapping.bytes_of_nameless hnameless rfl
      · intro held chores
        let bench : Bench σ := ⟨call.2, held⟩
        have hbench : bench.scene.files.Nameless scene.files.bodies.length stream.delivered :=
          hnameless
        exact Mapping.bytes_of_nameless (Bench.nameless_run hbench chores) rfl

/-- A stager with one name only. -/
def singleName : Stager := ⟨{ stem := "tmp", maxAttempts := 1, chunkSize := 2 }, ⟨7, 3⟩⟩

def brokenUp : Resources where
  packageName _ := .ok "letters"
  openRaw _ := .ok [.data [1, 2, 3], .interrupted, .data [4]]

/-- The name is taken again, and the file that has it then is filled and removed. -/
def nameReused : List Chore :=
  [.acquire singleName ⟨"/"⟩, .copy singleName (.slot 0) (.ofBytes [9]), .drop 0]

theorem snapshot_outlives_name :
    singleName.CanBuffer ∧
    ∃ m, (singleName.copyResourceToBuffer ⟨"/"⟩ brokenUp 0 Bench.bareScene).1 = .ok m ∧
      m.bytes ((⟨(singleName.copyResourceToBuffer ⟨"/"⟩ brokenUp 0 Bench.bareScene).2, []⟩ :
        Bench Nat).run nameReused).2.scene.files = some [1, 2, 3, 4] := by
  have hbuffer : singleName.CanBuffer := by decide
  have hfree : singleName.firstFree ⟨"/"⟩ Bench.bareScene.files = some ⟨"/tmp7-3-0"⟩ := by
    decide +kernel
  obtain ⟨-, -, hmaps⟩ :=
    singleName.resource_in_memory_is_snapshot hbuffer ⟨"/"⟩ brokenUp 0 Bench.bareScene
  obtain ⟨-, hstream⟩ := hmaps _ hfree
  obtain ⟨-, hends⟩ := hstream _ rfl
  obtain ⟨m, hm, -, hlater⟩ := hends rfl
  exact ⟨hbuffer, m, hm, hlater [] nameReused⟩

end Typecase
