import Typecase.Proofs.Staging.Ownership

/-!
# What errands come to

The answer to an errand and its change of the files depend on two things only, on what is in hand
and on the first free name.
-/

namespace Typecase

variable {σ : Type}

/-! ## Copies into owned files -/

theorem Stager.copyToFile_of_owns (s : Stager) {t : TempFile} {scene : Scene σ}
    (h : scene.files.Owns t) (source : Stream) :
    (s.copyToFile t.path source scene).1.outcome = s.copyOutcome t.path source ∧
    scene.files.Becomes t.path.place (some (.file (s.copied source)))
      (s.copyToFile t.path source scene).2.files := by
  obtain ⟨hreach, b, hlook, hsole⟩ := h
  obtain ⟨buffers, notes, hcopy⟩ := s.copyToFile_of_opened (hreach.openEmptied hlook) source
  rw [hcopy, Store.setBody_setBody]
  exact ⟨rfl, Store.becomes_setBody hlook hsole _⟩

/-! ## Deeds -/

/-- What an errand comes to: its answer, what is in hand then, and what is seen at the one place
that it changes, if it changes any. -/
structure Deed where
  answer : Chore.Answer
  held : List TempFile
  change : Option (Place × Option Sight)

def Store.Changes : Option (Place × Option Sight) → Store → Store → Prop
  | none, s, t => s.SameSight t
  | some (place, seen), s, t => s.Becomes place seen t

namespace Errand

def deed (s : Stager) (bench : Bench σ) : Errand → Deed
  | take dir =>
    match s.firstFree dir bench.scene.files with
    | none => ⟨.acquired (.error (.exhausted dir s.settings.maxAttempts)), bench.held, none⟩
    | some p => ⟨.acquired (.ok ⟨p⟩), bench.held ++ [⟨p⟩], some (p.place, some (.file []))⟩
  | fill k source =>
    match bench.held[k]? with
    | none => ⟨.emptyHanded, bench.held, none⟩
    | some t => ⟨.copied (s.copyOutcome t.path source), bench.held,
        some (t.path.place, some (.file (s.copied source)))⟩
  | drop k =>
    match bench.held[k]? with
    | none => ⟨.emptyHanded, bench.held, none⟩
    | some t => ⟨.dropped, bench.held.eraseIdx k, some (t.path.place, none)⟩

theorem step_chore {bench : Bench σ} (h : bench.Sound) (s : Stager) (errand : Errand) :
    (bench.step (errand.chore s)).1 = (errand.deed s bench).answer ∧
    (bench.step (errand.chore s)).2.held = (errand.deed s bench).held ∧
    Store.Changes (errand.deed s bench).change bench.scene.files
      (bench.step (errand.chore s)).2.scene.files := by
  cases errand with
  | take dir =>
    obtain ⟨notes, hacquire⟩ := s.acquire_eq dir bench.scene
    simp only [chore, Bench.step, deed, hacquire]
    cases hfree : s.firstFree dir bench.scene.files with
    | none => exact ⟨rfl, rfl, .refl _⟩
    | some p =>
      obtain ⟨-, hreach, -⟩ := Stager.firstFree_eq_some hfree
      exact ⟨rfl, rfl, Store.becomes_staged _ hreach.ne_root []⟩
  | fill k source =>
    simp only [chore, Bench.step, Bench.path?, deed]
    cases hheld : bench.held[k]? with
    | none => exact ⟨rfl, rfl, .refl _⟩
    | some t =>
      obtain ⟨houtcome, hbecomes⟩ :=
        s.copyToFile_of_owns (h.owns t (List.mem_of_getElem? hheld)) source
      exact ⟨congrArg Chore.Answer.copied houtcome, rfl, hbecomes⟩
  | drop k =>
    cases hheld : bench.held[k]? with
    | none =>
      simp only [chore, Bench.step, deed, hheld, true_and]
      exact Store.SameSight.refl _
    | some t =>
      have hdrop := Bench.drops_of_held h hheld
      have hbecomes := (hdrop.removes_only h).2.1
      simp only [chore, Bench.step, deed, hheld, true_and] at hbecomes ⊢
      exact hbecomes

theorem deed_congr {s : Stager} {bench bench' : Bench σ} (hheld : bench.held = bench'.held)
    (hfree : ∀ dir, s.firstFree dir bench.scene.files = s.firstFree dir bench'.scene.files)
    (errand : Errand) : errand.deed s bench = errand.deed s bench' := by
  cases errand with
  | take dir => simp only [deed, hfree, hheld]
  | fill k source => simp only [deed, hheld]
  | drop k => simp only [deed, hheld]

end Errand

/-! ## Where errands go -/

/-- All temp files have names that the stager tries. -/
def Stager.Made (s : Stager) (held : List TempFile) : Prop :=
  ∀ t ∈ held, ∃ dir attempt, t.path = s.candidate dir attempt

/-- A change that a worker may make. It is at a name of its own stager, and what was there is its
own or nothing. -/
structure Stager.MayChange (s : Stager) (bench : Bench σ) (place : Place) (seen : Option Sight) :
    Prop where
  named : ∃ dir attempt, place = (s.candidate dir attempt).place
  own : (∃ t ∈ bench.held, place = t.path.place) ∨ bench.scene.files.look place = none
  no_directory : seen ≠ some .directory

namespace Errand

theorem deed_mayChange {s : Stager} {bench : Bench σ} (hmade : s.Made bench.held) {errand : Errand}
    {place : Place} {seen : Option Sight} (h : (errand.deed s bench).change = some (place, seen)) :
    s.MayChange bench place seen := by
  have hslot {k : Nat} {t : TempFile} (hheld : bench.held[k]? = some t) {seen : Option Sight}
      (hseen : seen ≠ some .directory) : s.MayChange bench t.path.place seen := by
    have hmem := List.mem_of_getElem? hheld
    obtain ⟨dir, attempt, hpath⟩ := hmade t hmem
    exact ⟨⟨dir, attempt, congrArg Path.place hpath⟩, .inl ⟨t, hmem, rfl⟩, hseen⟩
  cases errand with
  | take dir =>
    cases hfree : s.firstFree dir bench.scene.files with
    | none => simp [deed, hfree] at h
    | some p =>
      obtain ⟨⟨attempt, rfl⟩, -, hnone⟩ := Stager.firstFree_eq_some hfree
      obtain ⟨rfl, rfl⟩ : (s.candidate dir attempt).place = place ∧ some (.file []) = seen := by
        simpa [deed, hfree] using h
      exact ⟨⟨dir, attempt, rfl⟩, .inr hnone, by simp⟩
  | fill k source =>
    cases hheld : bench.held[k]? with
    | none => simp [deed, hheld] at h
    | some t =>
      obtain ⟨rfl, rfl⟩ : t.path.place = place ∧ some (.file (s.copied source)) = seen := by
        simpa [deed, hheld] using h
      exact hslot hheld (by simp)
  | drop k =>
    cases hheld : bench.held[k]? with
    | none => simp [deed, hheld] at h
    | some t =>
      obtain ⟨rfl, rfl⟩ : t.path.place = place ∧ none = seen := by
        simpa [deed, hheld] using h
      exact hslot hheld (by simp)

/-- What is in hand after an errand was in hand before, or its name was free and is the stager's. -/
theorem mem_held_deed {s : Stager} {bench : Bench σ} {errand : Errand} {t : TempFile}
    (h : t ∈ (errand.deed s bench).held) :
    t ∈ bench.held ∨ (∃ dir attempt, t.path = s.candidate dir attempt) ∧
      bench.scene.files.look t.path.place = none := by
  cases errand with
  | take dir =>
    cases hfree : s.firstFree dir bench.scene.files with
    | none => exact .inl (by simpa [deed, hfree] using h)
    | some p =>
      obtain ⟨⟨attempt, hpath⟩, -, hnone⟩ := Stager.firstFree_eq_some hfree
      simp only [deed, hfree, List.mem_append, List.mem_singleton] at h
      rcases h with hold | rfl
      · exact .inl hold
      · exact .inr ⟨⟨dir, attempt, hpath⟩, hnone⟩
  | fill k source =>
    cases hheld : bench.held[k]? with
    | none => exact .inl (by simpa [deed, hheld] using h)
    | some t => exact .inl (by simpa [deed, hheld] using h)
  | drop k =>
    cases hheld : bench.held[k]? with
    | none => exact .inl (by simpa [deed, hheld] using h)
    | some t => exact .inl (List.mem_of_mem_eraseIdx (by simpa [deed, hheld] using h))

end Errand

end Typecase
