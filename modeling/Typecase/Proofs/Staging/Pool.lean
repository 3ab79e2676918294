import Mathlib.Data.List.InsertIdx
import Typecase.Proofs.Staging.Ownership
import Typecase.Proofs.Staging.TempName

/-!
# The first free name and no other

Stagers that try the same names in one directory share a pool of names. A name is out of the pool
while something has it, and a drop gives it back.
-/

namespace Typecase

variable {σ : Type}

theorem Store.Reaches.canCreate_eq_false_iff {s : Store} {p : Path} (h : s.Reaches p) :
    s.canCreate p = false ↔ ∃ node, s.openExisting p = .ok node := by
  cases hlook : s.look p.place with
  | none =>
    have hfree : s.canCreate p = true := (s.canCreate_iff p).mpr ⟨h, hlook⟩
    simp [hfree, h.openExisting_of_none hlook]
  | some node =>
    have htaken : s.canCreate p = false := by
      rw [Bool.eq_false_iff]
      intro hfree
      cases hlook.symm.trans ((s.canCreate_iff p).mp hfree).2
    simp [htaken, h.openExisting_of_look hlook]

namespace Stager

/-! ## One attempt after another -/

/-- A directory can hold the name, and its path can be looked at. -/
def Admissible (s : Stager) (dir : Path) (attempt : Nat) : Prop :=
  (tempName s.settings.stem s.identity attempt).utf8ByteSize ≤ Store.maxNameBytes ∧
    Store.refusal (s.candidate dir attempt) = none

instance (s : Stager) (dir : Path) (attempt : Nat) : Decidable (s.Admissible dir attempt) :=
  inferInstanceAs (Decidable (_ ∧ _))

theorem reaches_candidate {s : Stager} (hstem : '/' ∉ s.settings.stem.toList) {dir : Path}
    {files : Store} (hdir : files.IsDirectory dir) {attempt : Nat}
    (hfits : s.Admissible dir attempt) : files.Reaches (s.candidate dir attempt) :=
  Store.reaches_join hdir (Identity.plain_tempName hstem s.identity attempt) hfits.2 hfits.1

section

variable {s : Stager} {dir : Path} {files : Store} {p : Path}

theorem firstFree_eq_none_iff_taken (hstem : '/' ∉ s.settings.stem.toList)
    (hdir : files.IsDirectory dir)
    (hfits : ∀ attempt < s.settings.maxAttempts, s.Admissible dir attempt) :
    s.firstFree dir files = none ↔ ∀ attempt < s.settings.maxAttempts,
      ∃ node, files.openExisting (s.candidate dir attempt) = .ok node := by
  rw [firstFree_eq_none_iff]
  refine forall₂_congr fun attempt hlt => ?_
  exact (reaches_candidate hstem hdir (hfits attempt hlt)).canCreate_eq_false_iff

theorem firstFree_eq_some_of_fits (hstem : '/' ∉ s.settings.stem.toList)
    (hdir : files.IsDirectory dir)
    (hfits : ∀ attempt < s.settings.maxAttempts, s.Admissible dir attempt)
    (h : s.firstFree dir files = some p) :
    ∃ attempt < s.settings.maxAttempts, p = s.candidate dir attempt ∧
      files.openExisting p = .error .notFound ∧
      ∀ earlier < attempt, ∃ node, files.openExisting (s.candidate dir earlier) = .ok node := by
  obtain ⟨attempt, hlt, rfl, hfree, hearlier⟩ := firstFree_eq_some_iff.mp h
  obtain ⟨hreach, hnone⟩ := (files.canCreate_iff _).mp hfree
  refine ⟨attempt, hlt, rfl, hreach.openExisting_of_none hnone, fun earlier hbefore => ?_⟩
  have hreach' := reaches_candidate hstem hdir (hfits earlier (hbefore.trans hlt))
  exact hreach'.canCreate_eq_false_iff.mp (hearlier earlier hbefore)

end

theorem acquire_eq_error {s : Stager} {dir : Path} {scene : Scene σ} {why : StagingFault}
    (h : (s.acquire dir scene).1 = .error why) :
    why = .exhausted dir s.settings.maxAttempts ∧ s.firstFree dir scene.files = none ∧
      (s.acquire dir scene).2.files = scene.files := by
  obtain ⟨notes, hacquire⟩ := s.acquire_eq dir scene
  rw [hacquire] at h ⊢
  cases hfree : s.firstFree dir scene.files with
  | some p => simp [hfree] at h
  | none =>
    rw [hfree] at h
    cases h
    exact ⟨rfl, rfl, rfl⟩

theorem acquire_eq_ok_iff {s : Stager} {dir : Path} {scene : Scene σ} {t : TempFile} :
    (s.acquire dir scene).1 = .ok t ↔ s.firstFree dir scene.files = some t.path := by
  rw [fst_acquire]
  cases s.firstFree dir scene.files with
  | none => simp
  | some p => rw [Except.ok.injEq, TempFile.mk.injEq, Option.some.injEq]

end Stager

namespace Bench

/-! ## Who took what is in hand -/

structure Taker where
  stager : Stager
  dir : Path
  deriving DecidableEq

/-- The takers of what is in hand once a chore is done, in the order of `held`. -/
def takersAfter (bench : Bench σ) (takers : List Taker) : Chore → List Taker
  | .acquire s dir =>
    match (s.acquire dir bench.scene).1 with
    | .ok _ => takers ++ [⟨s, dir⟩]
    | .error _ => takers
  | .drop k => takers.eraseIdx k
  | _ => takers

/-- The same for chores that are done one after another. -/
def takers (bench : Bench σ) (known : List Taker) : List Chore → List Taker
  | [] => known
  | chore :: chores => (bench.step chore).2.takers (bench.takersAfter known chore) chores

/-- All that is in hand has one of these takers, who tried the name. -/
def TakenBy (bench : Bench σ) (takers : List Taker) : Prop :=
  ∃ pairs : List (TempFile × Taker),
    bench.held = pairs.map Prod.fst ∧ takers = pairs.map Prod.snd ∧
      ∀ t taker, (t, taker) ∈ pairs → t.path ∈ taker.stager.candidates taker.dir

theorem takenBy_of_nothing_held (scene : Scene σ) : (⟨scene, []⟩ : Bench σ).TakenBy [] :=
  ⟨[], rfl, rfl, by simp⟩

theorem TakenBy.step {bench : Bench σ} {takers : List Taker} (h : bench.TakenBy takers)
    (chore : Chore) : (bench.step chore).2.TakenBy (bench.takersAfter takers chore) := by
  obtain ⟨pairs, hheld, htakers, hnamed⟩ := h
  cases chore with
  | acquire s dir =>
    cases htaken : (s.acquire dir bench.scene).1 with
    | error why =>
      have hacquire : s.acquire dir bench.scene = (.error why, (s.acquire dir bench.scene).2) :=
        Prod.ext htaken rfl
      refine ⟨pairs, ?_, ?_, hnamed⟩
      · rw [Bench.step, hacquire]
        exact hheld
      · simpa only [takersAfter, htaken] using htakers
    | ok t =>
      refine ⟨pairs ++ [(t, ⟨s, dir⟩)], ?_, ?_, ?_⟩
      · rw [step_acquire htaken, List.map_append, hheld]
        rfl
      · simp only [takersAfter, htaken, List.map_append, htakers]
        rfl
      · intro other taker hmem
        rcases List.mem_append.mp hmem with hold | hnew
        · exact hnamed other taker hold
        · cases List.mem_singleton.mp hnew
          exact List.mem_of_find?_eq_some (Stager.acquire_eq_ok_iff.mp htaken)
  | copy s target source =>
    refine ⟨pairs, ?_, htakers, hnamed⟩
    simp only [Bench.step]
    cases bench.path? target <;> exact hheld
  | map target =>
    refine ⟨pairs, ?_, htakers, hnamed⟩
    simp only [Bench.step]
    cases bench.path? target <;> exact hheld
  | buffer s dir resources id => exact ⟨pairs, hheld, htakers, hnamed⟩
  | drop k =>
    refine ⟨pairs.eraseIdx k, ?_, ?_, ?_⟩
    · rw [← List.eraseIdx_map, ← hheld]
      cases hk : bench.held[k]? with
      | none =>
        rw [List.eraseIdx_of_length_le (List.getElem?_eq_none_iff.mp hk)]
        simp only [Bench.step, hk]
      | some t => simp only [Bench.step, hk]
    · rw [← List.eraseIdx_map, ← htakers, takersAfter]
    · intro t taker hmem
      exact hnamed t taker (List.mem_of_mem_eraseIdx hmem)

theorem TakenBy.run {bench : Bench σ} {takers : List Taker} (h : bench.TakenBy takers)
    (chores : List Chore) : (bench.run chores).2.TakenBy (bench.takers takers chores) := by
  induction chores generalizing bench takers with
  | nil => exact h
  | cons chore chores ih => exact ih (h.step chore)

/-! ## Pools -/

/-- The taker tries the names that the stager tries, in the same directory. -/
def Taker.InPool (taker : Taker) (s : Stager) (dir : Path) : Prop :=
  taker.stager.identity = s.identity ∧ taker.stager.settings.stem = s.settings.stem ∧
    taker.stager.settings.maxAttempts = s.settings.maxAttempts ∧ taker.dir.place = dir.place

instance (taker : Taker) (s : Stager) (dir : Path) : Decidable (taker.InPool s dir) :=
  inferInstanceAs (Decidable (_ ∧ _))

section

variable {bench : Bench σ} {takers : List Taker} {s : Stager} {dir : Path}

/-- Whoever is in the pool can only take the places of the pool. -/
theorem Taker.InPool.place_eq {taker : Taker} (h : taker.InPool s dir)
    (hstem : '/' ∉ s.settings.stem.toList) {p : Path}
    (hp : p ∈ taker.stager.candidates taker.dir) :
    ∃ attempt < s.settings.maxAttempts, p.place = (s.candidate dir attempt).place := by
  obtain ⟨hwho, hstems, hattempts, hdirs⟩ := h
  obtain ⟨attempt, hlt, rfl⟩ := List.mem_map.mp hp
  rw [List.mem_range, hattempts] at hlt
  refine ⟨attempt, hlt, ?_⟩
  rw [Stager.place_candidate hstem, Stager.place_candidate (hstems ▸ hstem), hwho, hstems, hdirs]

/-- No two temp files are in one place, and there is a place for each attempt only. -/
theorem TakenBy.countP_le (h : bench.TakenBy takers) (hsound : bench.Sound)
    (hstem : '/' ∉ s.settings.stem.toList) (dir : Path) :
    takers.countP (·.InPool s dir) ≤ s.settings.maxAttempts := by
  obtain ⟨pairs, hheld, rfl, hnamed⟩ := h
  let ours := pairs.filter fun pair => pair.2.InPool s dir
  let pool := (List.range s.settings.maxAttempts).map fun attempt => (s.candidate dir attempt).place
  have hnodup : (ours.map fun pair => pair.1.path.place).Nodup := by
    have hall := hsound.apart
    rw [hheld, List.map_map] at hall
    exact (List.filter_sublist.map _).nodup hall
  have hpool : (ours.map fun pair => pair.1.path.place) ⊆ pool := by
    intro place hmem
    obtain ⟨⟨t, taker⟩, hours, rfl⟩ := List.mem_map.mp hmem
    obtain ⟨hpair, hin⟩ := List.mem_filter.mp hours
    obtain ⟨attempt, hlt, hplace⟩ :=
      (of_decide_eq_true hin).place_eq hstem (hnamed t taker hpair)
    exact List.mem_map.mpr ⟨attempt, List.mem_range.mpr hlt, hplace.symm⟩
  calc (pairs.map Prod.snd).countP (·.InPool s dir)
      = ours.length := by rw [List.countP_map, List.countP_eq_length_filter]; rfl
    _ = (ours.map fun pair => pair.1.path.place).length := by rw [List.length_map]
    _ ≤ pool.length := hnodup.length_le_of_subset hpool
    _ = s.settings.maxAttempts := by rw [List.length_map, List.length_range]

/-- A drop leaves the name to all that are in the pool. -/
theorem TakenBy.look_after_drop (h : bench.TakenBy takers) (hsound : bench.Sound)
    (hstem : '/' ∉ s.settings.stem.toList) {k : Nat} {taker : Taker}
    (htaker : takers[k]? = some taker) (hin : taker.InPool s dir) :
    ∃ attempt < s.settings.maxAttempts,
      (bench.step (.drop k)).2.scene.files.look (s.candidate dir attempt).place = none := by
  obtain ⟨pairs, hheld, rfl, hnamed⟩ := h
  obtain ⟨⟨t, taker⟩, hpair, rfl⟩ : ∃ pair, pairs[k]? = some pair ∧ pair.2 = taker := by
    simpa using htaker
  have hk : bench.held[k]? = some t := by rw [hheld, List.getElem?_map, hpair]; rfl
  obtain ⟨attempt, hlt, hplace⟩ :=
    hin.place_eq hstem (hnamed t taker (List.mem_of_getElem? hpair))
  have hroot := (hsound.owns t (List.mem_of_getElem? hk)).1.ne_root
  refine ⟨attempt, hlt, ?_⟩
  rw [(drops_of_held hsound hk).files, ← hplace]
  exact Store.look_remove_self _ hroot

/-- So after a drop there is a name for the next of them. -/
theorem TakenBy.firstFree_after_drop (h : bench.TakenBy takers) (hsound : bench.Sound)
    (hstem : '/' ∉ s.settings.stem.toList) {k : Nat} {taker : Taker}
    (htaker : takers[k]? = some taker) (hin : taker.InPool s dir)
    (hdir : (bench.step (.drop k)).2.scene.files.IsDirectory dir)
    (hfits : ∀ attempt < s.settings.maxAttempts, s.Admissible dir attempt) :
    ∃ p, s.firstFree dir (bench.step (.drop k)).2.scene.files = some p := by
  obtain ⟨attempt, hlt, hnone⟩ := h.look_after_drop hsound hstem htaker hin
  have hreach := Stager.reaches_candidate hstem hdir (hfits attempt hlt)
  exact Stager.exists_firstFree_of_admitted
    ⟨attempt, hlt, _, (Store.createNew_eq_ok_iff_reaches _).mpr ⟨hreach, hnone, rfl⟩⟩

end

/-- **The first free name is taken, and else nothing changes.** The file is new and in the directory
itself. If the directory is there and can hold the names, all of them are taken when none is found.
Stagers that try the same names never have more files in it than there are attempts, and when one of
these is dropped, the next acquire finds the first name that is free then. -/
theorem first_free_name_is_taken (s : Stager) (hstem : '/' ∉ s.settings.stem.toList) (dir : Path)
    (scene : Scene σ) :
    let attempts := s.settings.maxAttempts
    let files := scene.files
    let taken := s.acquire dir scene
    (∀ t, taken.1 = .ok t → ∃ attempt < attempts,
      t.path = s.candidate dir attempt ∧
      files.canCreate t.path = true ∧
      (∀ earlier < attempt, files.canCreate (s.candidate dir earlier) = false) ∧
      t.path.place = tempName s.settings.stem s.identity attempt :: dir.place ∧
      files.openExisting t.path = .error .notFound ∧
      files.Becomes t.path.place (some (.file [])) taken.2.files) ∧
    (∀ why, taken.1 = .error why →
      why = .exhausted dir attempts ∧
      (∀ attempt < attempts, files.canCreate (s.candidate dir attempt) = false) ∧
      taken.2.files = files) ∧
    (files.IsDirectory dir → (∀ attempt < attempts, s.Admissible dir attempt) →
      ((∃ why, taken.1 = .error why) ↔
        ∀ attempt < attempts, ∃ node, files.openExisting (s.candidate dir attempt) = .ok node)) ∧
    ∀ chores,
      let bench := ((⟨scene, []⟩ : Bench σ).run chores).2
      let takers := (⟨scene, []⟩ : Bench σ).takers [] chores
      bench.TakenBy takers ∧
      takers.countP (·.InPool s dir) ≤ attempts ∧
      ∀ k taker, takers[k]? = some taker → taker.InPool s dir →
        let left := (bench.step (.drop k)).2.scene
        left.files.IsDirectory dir → (∀ attempt < attempts, s.Admissible dir attempt) →
        ∃ attempt < attempts, (s.acquire dir left).1 = .ok ⟨s.candidate dir attempt⟩ ∧
          left.files.openExisting (s.candidate dir attempt) = .error .notFound ∧
          ∀ earlier < attempt,
            ∃ node, left.files.openExisting (s.candidate dir earlier) = .ok node := by
  intro attempts files taken
  refine ⟨?_, ?_, ?_, ?_⟩
  · intro t htaken
    obtain ⟨hreach, hnone, notes, hscene⟩ := Stager.acquire_eq_ok htaken
    obtain ⟨attempt, hlt, hpath, hfree, hearlier⟩ :=
      Stager.firstFree_eq_some_iff.mp (Stager.acquire_eq_ok_iff.mp htaken)
    refine ⟨attempt, hlt, hpath, hpath ▸ hfree, hearlier, ?_, hreach.openExisting_of_none hnone, ?_⟩
    · rw [hpath, Stager.place_candidate hstem]
    · rw [show taken.2 = _ from hscene]
      exact Store.becomes_staged files hreach.ne_root []
  · intro why htaken
    obtain ⟨hwhy, hfree, hfiles⟩ := Stager.acquire_eq_error htaken
    exact ⟨hwhy, Stager.firstFree_eq_none_iff.mp hfree, hfiles⟩
  · intro hdir hfits
    rw [← Stager.firstFree_eq_none_iff_taken hstem hdir hfits]
    constructor
    · rintro ⟨why, htaken⟩
      exact (Stager.acquire_eq_error htaken).2.1
    · intro hfree
      refine ⟨.exhausted dir attempts, ?_⟩
      rw [show taken.1 = _ from s.fst_acquire dir scene, hfree]
  · intro chores bench takers
    have hsound : bench.Sound := (sound_of_nothing_held scene).run chores
    have htakenBy : bench.TakenBy takers := (takenBy_of_nothing_held scene).run chores
    refine ⟨htakenBy, htakenBy.countP_le hsound hstem dir, ?_⟩
    intro k taker htaker hin left hdir hfits
    obtain ⟨p, hfirst⟩ := htakenBy.firstFree_after_drop hsound hstem htaker hin hdir hfits
    obtain ⟨attempt, hlt, rfl, hfresh, hearlier⟩ :=
      Stager.firstFree_eq_some_of_fits hstem hdir hfits hfirst
    exact ⟨attempt, hlt, Stager.acquire_eq_ok_iff.mpr hfirst, hfresh, hearlier⟩

/-- A stager with three names. -/
def smallPool : Stager := ⟨{ stem := "tmp", maxAttempts := 3 }, ⟨7, 3⟩⟩

def takeAll : List Chore := List.replicate 3 (.acquire smallPool ⟨"/"⟩)

theorem dropped_name_is_taken_again :
    '/' ∉ smallPool.settings.stem.toList ∧
    ((⟨bareScene, []⟩ : Bench Nat).takers [] takeAll)[1]? = some ⟨smallPool, ⟨"/"⟩⟩ ∧
    ∃ attempt < 3,
      (smallPool.acquire ⟨"/"⟩
        (((⟨bareScene, []⟩ : Bench Nat).run takeAll).2.step (.drop 1)).2.scene).1 =
          .ok ⟨smallPool.candidate ⟨"/"⟩ attempt⟩ := by
  have hstem : '/' ∉ smallPool.settings.stem.toList := by decide
  have htaker : ((⟨bareScene, []⟩ : Bench Nat).takers [] takeAll)[1]? =
      some ⟨smallPool, ⟨"/"⟩⟩ := by
    decide +kernel
  have hopens : (((⟨bareScene, []⟩ : Bench Nat).run takeAll).2.step
      (.drop 1)).2.scene.files.openExisting ⟨"/"⟩ = .ok .directory := by
    decide +kernel
  have hfits : ∀ attempt < 3, smallPool.Admissible ⟨"/"⟩ attempt := by decide +kernel
  obtain ⟨-, -, -, hruns⟩ := first_free_name_is_taken smallPool hstem ⟨"/"⟩ bareScene
  obtain ⟨-, -, hdrop⟩ := hruns takeAll
  obtain ⟨attempt, hlt, hacquire, -⟩ :=
    hdrop 1 ⟨smallPool, ⟨"/"⟩⟩ htaker ⟨rfl, rfl, rfl, rfl⟩ (.inr hopens) hfits
  exact ⟨hstem, htaker, attempt, hlt, hacquire⟩

end Bench

end Typecase
