import Typecase.Proofs.Staging.Ownership

/-!
# Workshops in order

Workers share the files, but no temp file. What one of them does leaves the files of all others to
them.
-/

namespace Typecase

variable {σ ι : Type}

namespace Bench

/-- A chore takes no file away from anybody else. -/
theorem owns_step {bench : Bench σ} (h : bench.Sound) (chore : Chore) {t : TempFile}
    (howns : bench.scene.files.Owns t)
    (hne : ∀ mine ∈ bench.held, t.path.place ≠ mine.path.place) :
    (bench.step chore).2.scene.files.Owns t := by
  rcases step_cases h chore with ⟨k, mine, hdrop⟩ | ⟨new, hgain⟩
  · have hmine := List.mem_of_getElem? hdrop.held
    rw [hdrop.files]
    exact howns.remove (h.owns mine hmine).2 (hne mine hmine)
  · exact hgain.grows.owns howns

theorem mem_held_step {bench : Bench σ} (h : bench.Sound) {chore : Chore} {t : TempFile}
    (ht : t ∈ (bench.step chore).2.held) :
    t ∈ bench.held ∨ bench.scene.files.look t.path.place = none := by
  rcases step_cases h chore with ⟨k, mine, hdrop⟩ | ⟨new, hgain⟩
  · rw [hdrop.rest] at ht
    exact .inl (List.mem_of_mem_eraseIdx ht)
  · rw [hgain.held] at ht
    rcases List.mem_append.mp ht with hold | hnew
    · exact .inl hold
    · exact .inr (hgain.fresh t (Option.mem_toList.mp hnew)).1

end Bench

namespace Workshop

/-- Every bench is in order, and no two workers have a file at one place. -/
structure Sound (shop : Workshop ι σ) : Prop where
  benches : ∀ who, (shop.bench who).Sound
  apart : ∀ who other, who ≠ other → ∀ t ∈ shop.held who, ∀ t' ∈ shop.held other,
    t.path.place ≠ t'.path.place

theorem sound_of_nothing_held (scene : Scene σ) (stager : ι → Stager) :
    ({ scene, stager } : Workshop ι σ).Sound where
  benches _ := Bench.sound_of_nothing_held scene
  apart := by simp

variable [DecidableEq ι] {shop : Workshop ι σ}

theorem held_step_self (who : ι) (errand : Errand) :
    (shop.step who errand).2.held who =
      ((shop.bench who).step (errand.chore (shop.stager who))).2.held := if_pos rfl

theorem held_step_of_ne {who other : ι} (h : other ≠ who) (errand : Errand) :
    (shop.step who errand).2.held other = shop.held other := if_neg h

theorem Sound.held_ne_place (h : shop.Sound) {who other : ι} (hne : other ≠ who) {errand : Errand}
    {t t' : TempFile} (ht : t ∈ (shop.step who errand).2.held who) (ht' : t' ∈ shop.held other) :
    t.path.place ≠ t'.path.place := by
  rw [held_step_self] at ht
  rcases Bench.mem_held_step (h.benches who) ht with hold | hnone
  · exact h.apart who other hne.symm t hold t' ht'
  · intro heq
    obtain ⟨-, b, hlook, -⟩ := (h.benches other).owns t' ht'
    rw [← heq] at hlook
    cases hnone.symm.trans hlook

theorem sound_bench_step {who : ι} (h : (shop.bench who).Sound) (errand : Errand) :
    ((shop.step who errand).2.bench who).Sound := by
  have hbench : (shop.step who errand).2.bench who =
      ((shop.bench who).step (errand.chore (shop.stager who))).2 := by
    rw [bench, held_step_self]
    rfl
  rw [hbench]
  exact h.step _

theorem Sound.step (h : shop.Sound) (who : ι) (errand : Errand) :
    (shop.step who errand).2.Sound := by
  constructor
  · intro i
    by_cases hi : i = who
    · subst hi
      exact sound_bench_step (h.benches i) errand
    · constructor
      · intro t ht
        change t ∈ (shop.step who errand).2.held i at ht
        rw [held_step_of_ne hi] at ht
        exact Bench.owns_step (h.benches who) _ ((h.benches i).owns t ht)
          fun mine hmine => h.apart i who hi t ht mine hmine
      · change (((shop.step who errand).2.held i).map _).Nodup
        rw [held_step_of_ne hi]
        exact (h.benches i).apart
  · intro i j hij t ht t' ht'
    by_cases hi : i = who
    · subst hi
      rw [held_step_of_ne hij.symm] at ht'
      exact h.held_ne_place hij.symm ht ht'
    · rw [held_step_of_ne hi] at ht
      by_cases hj : j = who
      · subst hj
        exact (h.held_ne_place hi ht' ht).symm
      · rw [held_step_of_ne hj] at ht'
        exact h.apart i j hij t ht t' ht'

end Workshop

end Typecase
