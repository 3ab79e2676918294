import Mathlib.Data.List.Nodup
import Typecase.Proofs.Staging.FirstFree
import Typecase.Proofs.Staging.Owned
import Typecase.Staging.Chore

/-!
# Every temp file has its own file

A temp file is removed by its name, so a drop is only right if nobody else has that name. Names are
taken where nothing was, and only drops remove files. So whoever has a temp file has its file alone.
-/

namespace Typecase

variable {σ : Type}

/-! ## What each call does to the files -/

theorem TempFile.files_release {t : TempFile} {scene : Scene σ} {files : Store}
    (hfiles : scene.files = files) (h : files.Owns t) :
    (t.release scene).2.files = files.remove t.path.place := by
  subst hfiles
  obtain ⟨hreach, b, hlook, -⟩ := h
  simp only [release, Act.bind_apply, Act.files_apply, hreach.unlink_of_file hlook]
  rfl

theorem files_mapReadOnly (p : Path) (scene : Scene σ) :
    (mapReadOnly p scene).2.files = scene.files := by
  simp only [mapReadOnly, Act.bind_apply, Act.files_apply]
  cases scene.files.openExisting p with
  | error why => rfl
  | ok node => cases node <;> rfl

theorem mapReadOnly_of_file {p : Path} {scene : Scene σ} {b : Nat}
    (h : scene.files.openExisting p = .ok (.file b)) :
    (mapReadOnly p scene).1 = .ok ⟨b, (scene.files.body b).length⟩ := by
  simp only [mapReadOnly, Act.bind_apply, Act.files_apply, h]
  rfl

namespace Stager

theorem grows_copyToFile (s : Stager) (p : Path) (source : Stream) (scene : Scene σ) :
    scene.files.Grows (s.copyToFile p source scene).2.files := by
  cases hopen : scene.files.openEmptied p with
  | error why =>
    rw [files_copyToFile_of_refused hopen]
    exact .refl _
  | ok opened =>
    obtain ⟨buffers, notes, hcopy⟩ := s.copyToFile_of_opened hopen source
    rw [hcopy]
    exact (Store.grows_openEmptied hopen).setBody _ _

section

variable {s : Stager} {dir : Path} {scene : Scene σ}

theorem copyResourceToBuffer_of_none (hfree : s.firstFree dir scene.files = none)
    (resources : Resources) (id : ResourceId) :
    (s.copyResourceToBuffer dir resources id scene).1 =
      .error (.fault (.exhausted dir s.settings.maxAttempts)) ∧
    (s.copyResourceToBuffer dir resources id scene).2.files = scene.files := by
  obtain ⟨notes, hacquire⟩ := s.acquire_eq dir scene
  rw [hfree] at hacquire
  simp only [copyResourceToBuffer, Act.bind_apply, hacquire]
  exact ⟨rfl, rfl⟩

/-- A resource in memory leaves no file. The one that it was staged in is gone again. -/
theorem copyResourceToBuffer_of_some {p : Path} (hfree : s.firstFree dir scene.files = some p)
    (resources : Resources) (id : ResourceId) :
    ∃ bytes,
      (s.copyResourceToBuffer dir resources id scene).1 =
        (s.resourceOutcome resources id p).map
          (fun _ => ⟨scene.files.bodies.length, bytes.length⟩) ∧
      (s.copyResourceToBuffer dir resources id scene).2.files =
        (scene.files.staged p.place bytes).remove p.place ∧
      ∀ n, s.resourceOutcome resources id p = .ok n → resources.bytes? id = some bytes := by
  obtain ⟨notes, hacquire⟩ := s.acquire_eq dir scene
  rw [hfree] at hacquire
  obtain ⟨-, hreach, hnone⟩ := firstFree_eq_some hfree
  obtain ⟨bytes, notes', calls, hfill, hbytes⟩ := s.fills_copyResourceToFile resources id p p.place
    scene.files { scene with files := scene.files.staged p.place [], notes } hreach hnone rfl
  refine ⟨bytes, ?_⟩
  have howns := Store.owns_staged hreach hnone bytes
  have hlook := Store.look_staged_self scene.files hreach.ne_root bytes
  dsimp only at hfill
  simp only [copyResourceToBuffer, Act.bind_apply, hacquire, hfill]
  cases houtcome : s.resourceOutcome resources id p with
  | error why => exact ⟨rfl, TempFile.files_release rfl howns, by simp⟩
  | ok n =>
    refine ⟨?_, TempFile.files_release (files_mapReadOnly p _) howns, fun _ _ => hbytes n houtcome⟩
    simp only [Act.bind_apply, Act.pure_apply]
    rw [mapReadOnly_of_file (howns.1.openExisting_of_file hlook), Store.body_staged_self]
    rfl

end

theorem files_copyResourceToBuffer (s : Stager) (dir : Path) (resources : Resources)
    (id : ResourceId) (scene : Scene σ) :
    (s.copyResourceToBuffer dir resources id scene).2.files = scene.files ∨
    ∃ p bytes, scene.files.Reaches p ∧ scene.files.look p.place = none ∧
      (s.copyResourceToBuffer dir resources id scene).2.files =
        (scene.files.staged p.place bytes).remove p.place := by
  cases hfree : s.firstFree dir scene.files with
  | none => exact .inl (copyResourceToBuffer_of_none hfree resources id).2
  | some p =>
    obtain ⟨-, hreach, hnone⟩ := firstFree_eq_some hfree
    obtain ⟨bytes, -, hfiles, -⟩ := copyResourceToBuffer_of_some hfree resources id
    exact .inr ⟨p, bytes, hreach, hnone, hfiles⟩

theorem look_copyResourceToBuffer (s : Stager) (dir : Path) (resources : Resources)
    (id : ResourceId) (scene : Scene σ) (place : Place) :
    (s.copyResourceToBuffer dir resources id scene).2.files.look place =
      scene.files.look place := by
  rcases s.files_copyResourceToBuffer dir resources id scene with
    hfiles | ⟨p, bytes, hreach, hnone, hfiles⟩
  · rw [hfiles]
  · rw [hfiles, Store.look_remove_staged _ hreach.ne_root hnone]

theorem sameSight_copyResourceToBuffer (s : Stager) (dir : Path) (resources : Resources)
    (id : ResourceId) (scene : Scene σ) :
    scene.files.SameSight (s.copyResourceToBuffer dir resources id scene).2.files := by
  rcases s.files_copyResourceToBuffer dir resources id scene with
    hfiles | ⟨p, bytes, hreach, hnone, hfiles⟩
  · rw [hfiles]
    exact .refl _
  · rw [hfiles]
    have hroot := hreach.ne_root
    exact Store.sameSight_remove hroot hnone (Store.sameElsewhere_staged _ hroot bytes)

end Stager

/-! ## Benches in order -/

namespace Bench

/-- All that is in hand has a file of its own, each in another place. -/
structure Sound (bench : Bench σ) : Prop where
  owns : ∀ t ∈ bench.held, bench.scene.files.Owns t
  apart : (bench.held.map fun t => t.path.place).Nodup

theorem Sound.place_ne {bench : Bench σ} (h : bench.Sound) {k : Nat} {t other : TempFile}
    (hheld : bench.held[k]? = some t) (hother : other ∈ bench.held.eraseIdx k) :
    other.path.place ≠ t.path.place := by
  obtain ⟨i, hik, hi⟩ := List.mem_eraseIdx_iff_getElem?.mp hother
  intro heq
  have hki : (bench.held.map fun t => t.path.place)[i]? =
      (bench.held.map fun t => t.path.place)[k]? := by
    rw [List.getElem?_map, List.getElem?_map, hi, hheld, Option.map_some, Option.map_some, heq]
  have hlt : i < (bench.held.map fun t => t.path.place).length := by
    rw [List.length_map]
    exact (List.getElem?_eq_some_iff.mp hi).1
  exact hik ((List.getElem?_inj hlt h.apart).mp hki)

/-- A drop removes the file of the temp file that goes out of hand. -/
structure Drops (bench after : Bench σ) (k : Nat) (t : TempFile) : Prop where
  held : bench.held[k]? = some t
  files : after.scene.files = bench.scene.files.remove t.path.place
  rest : after.held = bench.held.eraseIdx k

/-- Nothing goes away, and what comes into hand has its file where nothing was. -/
structure Gains (bench after : Bench σ) (new : Option TempFile) : Prop where
  grows : bench.scene.files.Grows after.scene.files
  held : after.held = bench.held ++ new.toList
  fresh : ∀ t, new = some t → bench.scene.files.look t.path.place = none ∧ after.scene.files.Owns t

theorem gains_of_grows {bench : Bench σ} {scene : Scene σ}
    (h : bench.scene.files.Grows scene.files) : bench.Gains { bench with scene } none where
  grows := h
  held := (List.append_nil _).symm
  fresh _ hnew := by cases hnew

theorem step_acquire {bench : Bench σ} {s : Stager} {dir : Path} {t : TempFile}
    (h : (s.acquire dir bench.scene).1 = .ok t) :
    bench.step (.acquire s dir) =
      (.acquired (.ok t), ⟨(s.acquire dir bench.scene).2, bench.held ++ [t]⟩) := by
  have hacquire : s.acquire dir bench.scene = (.ok t, (s.acquire dir bench.scene).2) :=
    Prod.ext h rfl
  rw [step, hacquire]

theorem drops_of_held {bench : Bench σ} (h : bench.Sound) {k : Nat} {t : TempFile}
    (hheld : bench.held[k]? = some t) : bench.Drops (bench.step (.drop k)).2 k t := by
  have howns := h.owns t (List.mem_of_getElem? hheld)
  refine ⟨hheld, ?_, ?_⟩
  · simpa only [step, hheld] using TempFile.files_release rfl howns
  · simp only [step, hheld]

/-- A chore drops one temp file, or it takes nothing away. -/
theorem step_cases {bench : Bench σ} (h : bench.Sound) (chore : Chore) :
    (∃ k t, bench.Drops (bench.step chore).2 k t) ∨
    ∃ new, bench.Gains (bench.step chore).2 new := by
  have hsame : bench.Gains bench none :=
    gains_of_grows (Store.Grows.refl bench.scene.files)
  cases chore with
  | acquire s dir =>
    obtain ⟨notes, hacquire⟩ := s.acquire_eq dir bench.scene
    simp only [step, hacquire]
    cases hfree : s.firstFree dir bench.scene.files with
    | none => exact .inr ⟨none, gains_of_grows (.refl _)⟩
    | some p =>
      obtain ⟨-, hreach, hnone⟩ := Stager.firstFree_eq_some hfree
      refine .inr ⟨some ⟨p⟩, Store.grows_staged hreach.ne_root hnone [], rfl, ?_⟩
      rintro - ⟨⟩
      exact ⟨hnone, Store.owns_staged hreach hnone []⟩
  | copy s target source =>
    simp only [step]
    cases bench.path? target with
    | none => exact .inr ⟨none, hsame⟩
    | some p => exact .inr ⟨none, gains_of_grows (s.grows_copyToFile p source bench.scene)⟩
  | map target =>
    simp only [step]
    cases bench.path? target with
    | none => exact .inr ⟨none, hsame⟩
    | some p =>
      have hgrows : bench.scene.files.Grows (mapReadOnly p bench.scene).2.files := by
        rw [files_mapReadOnly]
        exact .refl _
      exact .inr ⟨none, gains_of_grows hgrows⟩
  | buffer s dir resources id =>
    have hlook := s.look_copyResourceToBuffer dir resources id bench.scene
    exact .inr ⟨none, gains_of_grows (Store.grows_of_look_eq hlook)⟩
  | drop k =>
    cases hheld : bench.held[k]? with
    | none => exact .inr ⟨none, by simpa only [step, hheld] using hsame⟩
    | some t => exact .inl ⟨k, t, drops_of_held h hheld⟩

/-! ## Runs -/

theorem Drops.sound {bench after : Bench σ} {k : Nat} {t : TempFile} (h : bench.Sound)
    (hdrop : bench.Drops after k t) : after.Sound := by
  have howns := h.owns t (List.mem_of_getElem? hdrop.held)
  have hsub : (bench.held.eraseIdx k).Sublist bench.held := List.eraseIdx_sublist _ _
  constructor
  · rw [hdrop.files, hdrop.rest]
    intro other hother
    have hne := h.place_ne hdrop.held hother
    exact (h.owns other (hsub.mem hother)).remove howns.2 hne
  · rw [hdrop.rest]
    exact (hsub.map _).nodup h.apart

theorem Gains.sound {bench after : Bench σ} {new : Option TempFile} (h : bench.Sound)
    (hgain : bench.Gains after new) : after.Sound := by
  constructor
  · rw [hgain.held]
    intro t ht
    rcases List.mem_append.mp ht with hold | hnew
    · exact hgain.grows.owns (h.owns t hold)
    · exact (hgain.fresh t (Option.mem_toList.mp hnew)).2
  · rw [hgain.held]
    cases hnew : new with
    | none => simpa using h.apart
    | some t =>
      have hnone := (hgain.fresh t hnew).1
      have hnotin : t.path.place ∉ bench.held.map fun t => t.path.place := by
        intro hmem
        obtain ⟨other, hother, heq⟩ := List.mem_map.mp hmem
        obtain ⟨-, b, hlook, -⟩ := h.owns other hother
        rw [heq, hnone] at hlook
        cases hlook
      simpa using List.Nodup.concat hnotin h.apart

theorem Sound.step {bench : Bench σ} (h : bench.Sound) (chore : Chore) :
    (bench.step chore).2.Sound := by
  rcases step_cases h chore with ⟨k, t, hdrop⟩ | ⟨new, hgain⟩
  · exact hdrop.sound h
  · exact hgain.sound h

theorem Sound.run {bench : Bench σ} (h : bench.Sound) (chores : List Chore) :
    (bench.run chores).2.Sound := by
  induction chores generalizing bench with
  | nil => exact h
  | cons chore chores ih => exact ih (h.step chore)

theorem sound_of_nothing_held (scene : Scene σ) : (⟨scene, []⟩ : Bench σ).Sound where
  owns := by simp
  apart := .nil

theorem Sound.paths_nodup {bench : Bench σ} (h : bench.Sound) :
    (bench.held.map TempFile.path).Nodup := by
  have hplaces : ((bench.held.map TempFile.path).map Path.place).Nodup := by
    rw [List.map_map]
    exact h.apart
  exact hplaces.of_map _

/-- A drop removes the dropped file and leaves all others as they are. -/
theorem Drops.removes_only {bench after : Bench σ} {k : Nat} {t : TempFile} (h : bench.Sound)
    (hdrop : bench.Drops after k t) :
    after.scene.files.openExisting t.path = .error .notFound ∧
    Store.Becomes t.path.place none bench.scene.files after.scene.files ∧
    ∀ other ∈ after.held, after.scene.files.read other.path = bench.scene.files.read other.path := by
  have howns := h.owns t (List.mem_of_getElem? hdrop.held)
  have hroot := howns.1.ne_root
  have hbecomes := Store.becomes_remove bench.scene.files hroot
  rw [hdrop.files]
  refine ⟨?_, hbecomes, ?_⟩
  · have hnone := Store.look_remove_self bench.scene.files hroot
    exact (howns.1.remove howns.2).openExisting_of_none hnone
  · rw [hdrop.rest]
    intro other hother
    have hne := h.place_ne hdrop.held hother
    have hother' := h.owns other (List.mem_of_mem_eraseIdx hother)
    obtain ⟨bytes, hsight, hread⟩ := hother'.read
    rw [hread, (hother'.1.remove howns.2).read]
    rw [hbecomes.2 _ hne, hsight]

/-- **Whoever has a temp file has its file alone**, at every moment of every run. -/
theorem temp_files_are_exclusive (scene : Scene σ) (chores : List Chore) :
    let bench := ((⟨scene, []⟩ : Bench σ).run chores).2
    let files := bench.scene.files
    (bench.held.map TempFile.path).Nodup ∧
    (∀ t ∈ bench.held, ∃ b, files.openExisting t.path = .ok (.file b)) ∧
    (∀ (s : Stager) dir t, (s.acquire dir bench.scene).1 = .ok t →
      let after := (bench.step (.acquire s dir)).2
      after.held = bench.held ++ [t] ∧
      files.openExisting t.path = .error .notFound ∧
      files.Becomes t.path.place (some (.file [])) after.scene.files) ∧
    (∀ k t, bench.held[k]? = some t →
      let after := (bench.step (.drop k)).2
      after.held = bench.held.eraseIdx k ∧
      after.scene.files.openExisting t.path = .error .notFound ∧
      files.Becomes t.path.place none after.scene.files ∧
      ∀ other ∈ after.held, after.scene.files.read other.path = files.read other.path) ∧
    ∀ s dir resources id,
      files.SameSight (bench.step (.buffer s dir resources id)).2.scene.files := by
  intro bench files
  have hsound : bench.Sound := (sound_of_nothing_held scene).run chores
  refine ⟨hsound.paths_nodup, ?_, ?_, ?_, ?_⟩
  · intro t ht
    obtain ⟨hreach, b, hlook, -⟩ := hsound.owns t ht
    exact ⟨b, hreach.openExisting_of_file hlook⟩
  · intro s dir t htaken after
    obtain ⟨hreach, hnone, notes, hscene⟩ := Stager.acquire_eq_ok htaken
    have hafter : after = ⟨(s.acquire dir bench.scene).2, bench.held ++ [t]⟩ :=
      congrArg Prod.snd (step_acquire htaken)
    rw [hafter, hscene]
    exact ⟨rfl, hreach.openExisting_of_none hnone, Store.becomes_staged files hreach.ne_root []⟩
  · intro k t hheld after
    have hdrop := drops_of_held hsound hheld
    exact ⟨hdrop.rest, hdrop.removes_only hsound⟩
  · intro s dir resources id
    exact s.sameSight_copyResourceToBuffer dir resources id bench.scene

/-- A scene without files. -/
def bareScene : Scene Nat := { files := .empty, outside := 0 }

/-- A name is taken again only when it was dropped. -/
example :
    let s : Stager := ⟨{ stem := "tmp" }, ⟨7, 3⟩⟩
    let bench : Bench Nat := ⟨bareScene, []⟩
    (bench.run [.acquire s ⟨"/"⟩, .acquire s ⟨"/"⟩, .drop 0, .acquire s ⟨"/"⟩]).2.held =
      [⟨⟨"/tmp7-3-1"⟩⟩, ⟨⟨"/tmp7-3-0"⟩⟩] := by
  decide +kernel

end Bench

end Typecase
