import Typecase.Proofs.Files.Destination
import Typecase.Proofs.Files.Staged
import Typecase.Scene.Lemmas
import Typecase.Staging.Stager

/-!
# The first free name

A stager takes the first of its candidates that can be created. So it gets a temp file exactly if
there is such a candidate, and what it gets depends on nothing else.
-/

namespace Typecase

variable {σ : Type}

namespace Store

def canCreate (s : Store) (p : Path) : Bool := (s.createNew p).isOk

theorem canCreate_iff (s : Store) (p : Path) :
    s.canCreate p = true ↔ s.Reaches p ∧ s.look p.place = none := by
  rw [canCreate]
  constructor
  · intro h
    cases hnew : s.createNew p with
    | error why => simp [hnew, Except.isOk, Except.toBool] at h
    | ok t =>
      obtain ⟨hreach, hlook, -⟩ := (createNew_eq_ok_iff_reaches t).mp hnew
      exact ⟨hreach, hlook⟩
  · rintro ⟨hreach, hlook⟩
    rw [(createNew_eq_ok_iff_reaches _).mpr ⟨hreach, hlook, rfl⟩]
    rfl

theorem canCreate_congr {s t : Store} {p : Path}
    (hdir : ∀ place, s.look place = some .directory ↔ t.look place = some .directory)
    (hnone : s.look p.place = none ↔ t.look p.place = none) : s.canCreate p = t.canCreate p := by
  have hreach : s.Reaches p ↔ t.Reaches p :=
    ⟨fun h => h.of_directories fun place => (hdir place).mp,
      fun h => h.of_directories fun place => (hdir place).mpr⟩
  rw [Bool.eq_iff_iff, canCreate_iff, canCreate_iff, hreach, hnone]

theorem SameSight.canCreate {s t : Store} (h : SameSight s t) (p : Path) :
    s.canCreate p = t.canCreate p :=
  canCreate_congr (fun _ => ⟨h.look_directory, h.symm.look_directory⟩)
    ⟨h.look_none, h.symm.look_none⟩

end Store

namespace Stager

def candidates (s : Stager) (dir : Path) : List Path :=
  (List.range s.settings.maxAttempts).map (s.candidate dir)

def firstFree (s : Stager) (dir : Path) (files : Store) : Option Path :=
  (s.candidates dir).find? files.canCreate

/-- The directory lets the stager create at least one of its candidates. -/
def Admitted (s : Stager) (dir : Path) (files : Store) : Prop :=
  ∃ attempt < s.settings.maxAttempts, ∃ t, files.createNew (s.candidate dir attempt) = .ok t

theorem tryFrom_eq (s : Stager) (dir : Path) (attempt left : Nat) (scene : Scene σ) :
    ∃ notes, s.tryFrom dir attempt left scene =
      match ((List.range' attempt left).map (s.candidate dir)).find? scene.files.canCreate with
      | none => (.error (.exhausted dir s.settings.maxAttempts), { scene with notes })
      | some p => (.ok ⟨p⟩, { scene with files := scene.files.staged p.place [], notes }) := by
  induction left generalizing attempt scene with
  | zero => exact ⟨scene.notes, rfl⟩
  | succ left ih =>
    unfold tryFrom
    rw [List.range'_succ, List.map_cons, List.find?_cons]
    simp only [Act.bind_apply, Act.files_apply, Store.canCreate]
    cases hnew : scene.files.createNew (s.candidate dir attempt) with
    | ok files =>
      obtain ⟨-, -, rfl⟩ := (Store.createNew_eq_ok_iff_reaches files).mp hnew
      rw [Store.addFile_eq_staged]
      exact ⟨_, rfl⟩
    | error why => exact ih (attempt + 1) _

/-- Taking a temp file is the search for the first free name. -/
theorem acquire_eq (s : Stager) (dir : Path) (scene : Scene σ) :
    ∃ notes, s.acquire dir scene =
      match s.firstFree dir scene.files with
      | none => (.error (.exhausted dir s.settings.maxAttempts), { scene with notes })
      | some p => (.ok ⟨p⟩, { scene with files := scene.files.staged p.place [], notes }) := by
  rw [firstFree, candidates, List.range_eq_range']
  exact tryFrom_eq s dir 0 _ scene

theorem fst_acquire (s : Stager) (dir : Path) (scene : Scene σ) :
    (s.acquire dir scene).1 =
      match s.firstFree dir scene.files with
      | none => .error (.exhausted dir s.settings.maxAttempts)
      | some p => .ok ⟨p⟩ := by
  obtain ⟨notes, hacquire⟩ := s.acquire_eq dir scene
  rw [hacquire]
  cases s.firstFree dir scene.files <;> rfl

theorem firstFree_congr {s : Stager} {dir : Path} {files files' : Store}
    (h : ∀ attempt, files.canCreate (s.candidate dir attempt) =
      files'.canCreate (s.candidate dir attempt)) :
    s.firstFree dir files = s.firstFree dir files' := by
  have hsame : ∀ p ∈ s.candidates dir, files.canCreate p = files'.canCreate p := by
    intro p hp
    obtain ⟨attempt, -, rfl⟩ := List.mem_map.mp hp
    exact h attempt
  rw [firstFree, firstFree, ← List.head?_filter, List.filter_congr hsame, List.head?_filter]

/-- Of the attempts that can succeed, the first is made. -/
theorem firstFree_eq_some_iff {s : Stager} {dir : Path} {files : Store} {p : Path} :
    s.firstFree dir files = some p ↔
      ∃ attempt < s.settings.maxAttempts, p = s.candidate dir attempt ∧
        files.canCreate (s.candidate dir attempt) = true ∧
        ∀ earlier < attempt, files.canCreate (s.candidate dir earlier) = false := by
  simp only [firstFree, candidates, List.find?_map, Option.map_eq_some_iff,
    List.find?_range_eq_some, List.mem_range, Function.comp_apply, Bool.not_eq_true']
  constructor
  · rintro ⟨attempt, ⟨hfree, hlt, hearlier⟩, rfl⟩
    exact ⟨attempt, hlt, rfl, hfree, hearlier⟩
  · rintro ⟨attempt, hlt, rfl, hfree, hearlier⟩
    exact ⟨attempt, ⟨hfree, hlt, hearlier⟩, rfl⟩

theorem firstFree_eq_none_iff {s : Stager} {dir : Path} {files : Store} :
    s.firstFree dir files = none ↔
      ∀ attempt < s.settings.maxAttempts,
        files.canCreate (s.candidate dir attempt) = false := by
  simp [firstFree, candidates]

theorem firstFree_eq_some {s : Stager} {dir : Path} {files : Store} {p : Path}
    (h : s.firstFree dir files = some p) :
    (∃ attempt, p = s.candidate dir attempt) ∧ files.Reaches p ∧ files.look p.place = none := by
  obtain ⟨attempt, -, rfl, hfree, -⟩ := firstFree_eq_some_iff.mp h
  exact ⟨⟨attempt, rfl⟩, (files.canCreate_iff _).mp hfree⟩

theorem acquire_cases (s : Stager) (dir : Path) (scene : Scene σ) :
    (∃ notes, s.acquire dir scene =
      (.error (.exhausted dir s.settings.maxAttempts), { scene with notes })) ∨
    ∃ p place notes, scene.files.Names p place ∧ scene.files.look place = none ∧
      s.acquire dir scene =
        (.ok ⟨p⟩, { scene with files := scene.files.staged place [], notes }) := by
  obtain ⟨notes, hacquire⟩ := s.acquire_eq dir scene
  cases hfree : s.firstFree dir scene.files with
  | none => exact .inl ⟨notes, by rw [hacquire, hfree]⟩
  | some p =>
    obtain ⟨-, hreach, hnone⟩ := firstFree_eq_some hfree
    exact .inr ⟨p, p.place, notes, hreach, hnone, by rw [hacquire, hfree]⟩

theorem acquire_sameSight (s : Stager) (dir : Path) {scene scene' : Scene σ}
    (h : scene.files.SameSight scene'.files) :
    (s.acquire dir scene).1 = (s.acquire dir scene').1 := by
  rw [fst_acquire, fst_acquire, firstFree_congr fun attempt => h.canCreate _]

theorem acquire_eq_ok {s : Stager} {dir : Path} {scene : Scene σ} {t : TempFile}
    (h : (s.acquire dir scene).1 = .ok t) :
    scene.files.Reaches t.path ∧ scene.files.look t.path.place = none ∧
      ∃ notes, (s.acquire dir scene).2 =
        { scene with files := scene.files.staged t.path.place [], notes } := by
  obtain ⟨notes, hacquire⟩ := s.acquire_eq dir scene
  rw [hacquire] at h ⊢
  cases hfree : s.firstFree dir scene.files with
  | none => simp [hfree] at h
  | some p =>
    rw [hfree] at h
    cases h
    obtain ⟨-, hreach, hnone⟩ := firstFree_eq_some hfree
    exact ⟨hreach, hnone, notes, rfl⟩

theorem exists_firstFree_of_admitted {s : Stager} {dir : Path} {files : Store}
    (h : s.Admitted dir files) : ∃ p, s.firstFree dir files = some p := by
  cases hfree : s.firstFree dir files with
  | some p => exact ⟨p, rfl⟩
  | none =>
    obtain ⟨attempt, hlt, t, hnew⟩ := h
    have hrefused := firstFree_eq_none_iff.mp hfree attempt hlt
    rw [Store.canCreate, hnew] at hrefused
    cases hrefused

theorem admitted_iff_exists_firstFree {s : Stager} {dir : Path} {files : Store} :
    s.Admitted dir files ↔ ∃ p, s.firstFree dir files = some p := by
  refine ⟨exists_firstFree_of_admitted, ?_⟩
  rintro ⟨p, hfree⟩
  obtain ⟨attempt, hlt, -, hcan, -⟩ := firstFree_eq_some_iff.mp hfree
  obtain ⟨hreach, hnone⟩ := (files.canCreate_iff _).mp hcan
  exact ⟨attempt, hlt, _, (Store.createNew_eq_ok_iff_reaches _).mpr ⟨hreach, hnone, rfl⟩⟩

end Stager

end Typecase
