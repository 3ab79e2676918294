import Typecase.Proofs.Staging.Errand
import Typecase.Proofs.Staging.TempName
import Typecase.Proofs.Staging.Workshop

/-!
# Workers with names of their own do not notice each other

A run of many workers is set beside the run of one of them alone. The files differ only at names
that others try, and there the worker alone has nothing.
-/

namespace Typecase

variable {σ ι : Type}

namespace Store

theorem Changes.sight_of_ne {change : Option (Place × Option Sight)} {s t : Store}
    (h : Changes change s t) {other : Place}
    (hne : ∀ place seen, change = some (place, seen) → other ≠ place) :
    t.sight other = s.sight other := by
  cases change with
  | none => exact h other
  | some at_ => exact h.2 other (hne at_.1 at_.2 rfl)

/-! ## Files beside files -/

/-- Both stores show the same. Only at foreign places may the second have a file where the first
has nothing. -/
def Beside (foreign : Place → Prop) (alone together : Store) : Prop :=
  ∀ place, together.sight place = alone.sight place ∨
    foreign place ∧ alone.sight place = none ∧ together.sight place ≠ some .directory

variable {foreign : Place → Prop} {alone together alone' together' : Store}
  {change : Option (Place × Option Sight)}

theorem Beside.refl (foreign : Place → Prop) (s : Store) : Beside foreign s s := fun _ => .inl rfl

theorem Beside.sight_eq (h : Beside foreign alone together) {place : Place}
    (hplace : ¬foreign place) : together.sight place = alone.sight place :=
  (h place).resolve_right fun hforeign => hplace hforeign.1

theorem Beside.look_directory_iff (h : Beside foreign alone together) (place : Place) :
    together.look place = some .directory ↔ alone.look place = some .directory := by
  rw [← sight_eq_directory_iff, ← sight_eq_directory_iff]
  rcases h place with heq | ⟨-, hnone, hfile⟩
  · rw [heq]
  · simp [hnone, hfile]

theorem Beside.look_none (h : Beside foreign alone together) {place : Place}
    (hlook : together.look place = none) : alone.look place = none := by
  rw [← sight_eq_none_iff] at hlook ⊢
  rcases h place with heq | ⟨-, hnone, -⟩
  · rw [← heq, hlook]
  · exact hnone

theorem Beside.canCreate (h : Beside foreign alone together) {p : Path} (hp : ¬foreign p.place) :
    together.canCreate p = alone.canCreate p := by
  apply canCreate_congr h.look_directory_iff
  rw [← sight_eq_none_iff, ← sight_eq_none_iff, h.sight_eq hp]

/-- One change made on both sides. -/
theorem Beside.changes (h : Beside foreign alone together) (halone : Changes change alone alone')
    (htogether : Changes change together together') : Beside foreign alone' together' := by
  intro place
  by_cases hplace : ∃ seen, change = some (place, seen)
  · obtain ⟨seen, rfl⟩ := hplace
    exact .inl (htogether.1.trans halone.1.symm)
  · have hne : ∀ other seen, change = some (other, seen) → place ≠ other := by
      rintro other seen hchange rfl
      exact hplace ⟨seen, hchange⟩
    rw [halone.sight_of_ne hne, htogether.sight_of_ne hne]
    exact h place

/-- A change at a foreign place, on the one side that can see it. -/
theorem Beside.changes_foreign (h : Beside foreign alone together)
    (htogether : Changes change together together')
    (hforeign : ∀ place seen, change = some (place, seen) →
      foreign place ∧ alone.look place = none ∧ seen ≠ some .directory) :
    Beside foreign alone together' := by
  intro place
  by_cases hplace : ∃ seen, change = some (place, seen)
  · obtain ⟨seen, rfl⟩ := hplace
    obtain ⟨hplace, hnone, hseen⟩ := hforeign place seen rfl
    refine .inr ⟨hplace, (sight_eq_none_iff _ _).mpr hnone, ?_⟩
    rw [htogether.1]
    exact hseen
  · have hne : ∀ other seen, change = some (other, seen) → place ≠ other := by
      rintro other seen hchange rfl
      exact hplace ⟨seen, hchange⟩
    rw [htogether.sight_of_ne hne]
    exact h place

end Store

namespace Workshop

/-! ## A worker alone and among others -/

/-- A place that another worker may try to take. -/
def Foreign (stager : ι → Stager) (me : ι) (place : Place) : Prop :=
  ∃ other, other ≠ me ∧ ∃ dir attempt, place = ((stager other).candidate dir attempt).place

/-- To the worker, the two workshops look the same. -/
structure Alike (stager : ι → Stager) (me : ι) (alone together : Workshop ι σ) : Prop where
  alone_stager : alone.stager = stager
  together_stager : together.stager = stager
  alone_sound : (alone.bench me).Sound
  together_sound : together.Sound
  held : together.held me = alone.held me
  made : ∀ who, (stager who).Made (together.held who)
  beside : Store.Beside (Foreign stager me) alone.scene.files together.scene.files
  aside : ∀ other, other ≠ me → ∀ t ∈ together.held other,
    alone.scene.files.look t.path.place = none

variable {stager : ι → Stager} {me : ι} {alone together : Workshop ι σ}

theorem not_foreign_candidate (hapart : ∀ other, other ≠ me → (stager me).Apart (stager other))
    (dir : Path) (attempt : Nat) : ¬Foreign stager me ((stager me).candidate dir attempt).place := by
  rintro ⟨other, hother, dir', attempt', heq⟩
  exact (hapart other hother).place_ne dir dir' attempt attempt' heq

theorem alike_refl (scene : Scene σ) (stager : ι → Stager) (me : ι) :
    Alike stager me { scene, stager } { scene, stager } where
  alone_stager := rfl
  together_stager := rfl
  alone_sound := Bench.sound_of_nothing_held scene
  together_sound := sound_of_nothing_held scene stager
  held := rfl
  made _ := by simp [Stager.Made]
  beside := .refl _ _
  aside := by simp

theorem Alike.deed_eq (h : Alike stager me alone together)
    (hapart : ∀ other, other ≠ me → (stager me).Apart (stager other)) (errand : Errand) :
    errand.deed (stager me) (together.bench me) = errand.deed (stager me) (alone.bench me) := by
  have hfree : ∀ dir, (stager me).firstFree dir together.scene.files =
      (stager me).firstFree dir alone.scene.files := by
    intro dir
    apply Stager.firstFree_congr
    intro attempt
    exact h.beside.canCreate (not_foreign_candidate hapart dir attempt)
  exact Errand.deed_congr h.held hfree errand

theorem Alike.read (h : Alike stager me alone together)
    (hapart : ∀ other, other ≠ me → (stager me).Apart (stager other)) {t : TempFile}
    (ht : t ∈ alone.held me) :
    ∃ bytes, together.scene.files.read t.path = .ok bytes ∧
      alone.scene.files.read t.path = .ok bytes := by
  have ht' : t ∈ together.held me := by rwa [h.held]
  obtain ⟨dir, attempt, hpath⟩ := h.made me t ht'
  have hplace : ¬Foreign stager me t.path.place := by
    rw [hpath]
    exact not_foreign_candidate hapart dir attempt
  obtain ⟨bytes, hsight, hread⟩ := (h.alone_sound.owns t ht).read
  obtain ⟨bytes', hsight', hread'⟩ := ((h.together_sound.benches me).owns t ht').read
  have hsame : bytes' = bytes := by
    have heq := hsight'.symm.trans ((h.beside.sight_eq hplace).trans hsight)
    simpa using heq
  exact ⟨bytes, hsame ▸ hread', hread⟩

variable [DecidableEq ι]

theorem step_deed {shop : Workshop ι σ} (hstager : shop.stager = stager) {who : ι}
    (h : (shop.bench who).Sound) (errand : Errand) :
    (shop.step who errand).1 = (errand.deed (stager who) (shop.bench who)).answer ∧
    (shop.step who errand).2.held who = (errand.deed (stager who) (shop.bench who)).held ∧
    Store.Changes (errand.deed (stager who) (shop.bench who)).change shop.scene.files
      (shop.step who errand).2.scene.files := by
  subst hstager
  rw [held_step_self]
  exact Errand.step_chore h (shop.stager who) errand

theorem Alike.made_step (h : Alike stager me alone together) (who : ι) (errand : Errand) (i : ι) :
    (stager i).Made ((together.step who errand).2.held i) := by
  by_cases hi : i = who
  · subst hi
    obtain ⟨-, hheld, -⟩ := step_deed h.together_stager (h.together_sound.benches i) errand
    rw [hheld]
    intro t ht
    rcases Errand.mem_held_deed ht with hold | ⟨hnamed, -⟩
    · exact h.made i t hold
    · exact hnamed
  · rw [held_step_of_ne hi]
    exact h.made i

/-- An own errand comes to the same on both sides. -/
theorem Alike.step_own (h : Alike stager me alone together)
    (hapart : ∀ other, other ≠ me → (stager me).Apart (stager other)) (errand : Errand) :
    (together.step me errand).1 = (alone.step me errand).1 ∧
    Alike stager me (alone.step me errand).2 (together.step me errand).2 := by
  obtain ⟨hanswer, hheld, hchange⟩ :=
    step_deed h.together_stager (h.together_sound.benches me) errand
  obtain ⟨hanswer', hheld', hchange'⟩ := step_deed h.alone_stager h.alone_sound errand
  rw [h.deed_eq hapart errand] at hanswer hheld hchange
  refine ⟨hanswer.trans hanswer'.symm, ?_⟩
  constructor
  · exact h.alone_stager
  · exact h.together_stager
  · exact sound_bench_step h.alone_sound errand
  · exact h.together_sound.step me errand
  · exact hheld.trans hheld'.symm
  · exact h.made_step me errand
  · exact h.beside.changes hchange' hchange
  · intro other hother t ht
    rw [held_step_of_ne hother] at ht
    have hnone := h.aside other hother t ht
    obtain ⟨dir, attempt, hpath⟩ := h.made other t ht
    rw [← Store.sight_eq_none_iff] at hnone ⊢
    rw [hchange'.sight_of_ne, hnone]
    intro place seen hplace
    have hmade : (stager me).Made (alone.bench me).held := by
      have hmine := h.made me
      rwa [h.held] at hmine
    obtain ⟨dir', attempt', rfl⟩ := (Errand.deed_mayChange hmade hplace).named
    rw [hpath]
    exact ((hapart other hother).place_ne dir' dir attempt' attempt).symm

/-- An errand of another worker is not seen by the one that is alone. -/
theorem Alike.step_other (h : Alike stager me alone together) {other : ι} (hother : other ≠ me)
    (errand : Errand) : Alike stager me alone (together.step other errand).2 := by
  obtain ⟨-, hheld, hchange⟩ := step_deed h.together_stager (h.together_sound.benches other) errand
  constructor
  · exact h.alone_stager
  · exact h.together_stager
  · exact h.alone_sound
  · exact h.together_sound.step other errand
  · rw [held_step_of_ne hother.symm, h.held]
  · exact h.made_step other errand
  · apply h.beside.changes_foreign hchange
    intro place seen hplace
    obtain ⟨hnamed, hown, hseen⟩ := Errand.deed_mayChange (h.made other) hplace
    refine ⟨⟨other, hother, hnamed⟩, ?_, hseen⟩
    rcases hown with ⟨t, ht, rfl⟩ | hnone
    · exact h.aside other hother t ht
    · exact h.beside.look_none hnone
  · intro i hi t ht
    by_cases hio : i = other
    · subst hio
      rw [hheld] at ht
      rcases Errand.mem_held_deed ht with hold | ⟨-, hnone⟩
      · exact h.aside i hi t hold
      · exact h.beside.look_none hnone
    · rw [held_step_of_ne hio] at ht
      exact h.aside i hi t ht

theorem Alike.run (h : Alike stager me alone together)
    (hapart : ∀ other, other ≠ me → (stager me).Apart (stager other)) (turns : List (ι × Errand)) :
    (together.run turns).1.filter (fun answer => answer.1 = me) =
      (alone.run (turns.filter fun turn => turn.1 = me)).1 ∧
    Alike stager me (alone.run (turns.filter fun turn => turn.1 = me)).2
      (together.run turns).2 := by
  induction turns generalizing alone together with
  | nil => exact ⟨rfl, h⟩
  | cons turn turns ih =>
    obtain ⟨who, errand⟩ := turn
    by_cases hwho : who = me
    · subst hwho
      obtain ⟨hanswer, hstep⟩ := h.step_own hapart errand
      obtain ⟨hanswers, hrun⟩ := ih hstep
      simp only [run, List.filter_cons, decide_true, if_true, hanswers, hanswer, true_and]
      exact hrun
    · simp only [run, List.filter_cons, decide_eq_false hwho]
      exact ih (h.step_other hwho errand)

/-- **Stagers that can be told apart do not notice each other.** -/
theorem workers_do_not_interfere (stager : ι → Stager) (me : ι)
    (hapart : ∀ other, other ≠ me → (stager me).Apart (stager other)) (scene : Scene σ)
    (turns : List (ι × Errand)) :
    let shop : Workshop ι σ := { scene, stager }
    let together := shop.run turns
    let alone := shop.run (turns.filter fun turn => turn.1 = me)
    together.1.filter (fun answer => answer.1 = me) = alone.1 ∧
    together.2.held me = alone.2.held me ∧
    ∀ t ∈ alone.2.held me, ∃ bytes, together.2.scene.files.read t.path = .ok bytes ∧
      alone.2.scene.files.read t.path = .ok bytes := by
  intro shop together alone
  obtain ⟨hanswers, halike⟩ := (alike_refl scene stager me).run hapart turns
  exact ⟨hanswers, halike.held, fun t ht => halike.read hapart ht⟩

/-- Two threads of one process. -/
def threads : Bool → Stager
  | false => ⟨{ stem := "tmp", maxAttempts := 2 }, ⟨7, 1⟩⟩
  | true => ⟨{ stem := "tmp", maxAttempts := 2 }, ⟨7, 11⟩⟩

def emptyScene : Scene Nat := { files := .empty, outside := 0 }

def crossedErrands : List (Bool × Errand) :=
  [(false, .take ⟨"/"⟩), (true, .take ⟨"/"⟩), (true, .fill 0 [.data [3]]), (false, .drop 0),
    (true, .take ⟨"/"⟩)]

theorem crossed_errands_do_not_meet :
    let shop : Workshop Bool Nat := { scene := emptyScene, stager := threads }
    let together := shop.run crossedErrands
    let alone := shop.run (crossedErrands.filter fun turn => turn.1 = true)
    (∀ other, other ≠ true → (threads true).Apart (threads other)) ∧
    together.1.filter (fun answer => answer.1 = true) = alone.1 ∧
    together.2.held true = [⟨⟨"/tmp7-11-0"⟩⟩, ⟨⟨"/tmp7-11-1"⟩⟩] ∧
    together.2.scene.files.read ⟨"/tmp7-11-0"⟩ = .ok [3] := by
  have hapart : ∀ other, other ≠ true → (threads true).Apart (threads other) := by
    intro other hother
    cases other with
    | true => exact absurd rfl hother
    | false => exact ⟨by decide, .inl rfl⟩
  have hheld : (({ scene := emptyScene, stager := threads } : Workshop Bool Nat).run
      (crossedErrands.filter fun turn => turn.1 = true)).2.held true =
        [⟨⟨"/tmp7-11-0"⟩⟩, ⟨⟨"/tmp7-11-1"⟩⟩] := by
    decide +kernel
  have hread : (({ scene := emptyScene, stager := threads } : Workshop Bool Nat).run
      (crossedErrands.filter fun turn => turn.1 = true)).2.scene.files.read ⟨"/tmp7-11-0"⟩ =
        .ok [3] := by
    decide +kernel
  obtain ⟨hanswers, hsame, hfiles⟩ :=
    workers_do_not_interfere threads true hapart emptyScene crossedErrands
  obtain ⟨bytes, htogether, halone⟩ := hfiles ⟨⟨"/tmp7-11-0"⟩⟩ (hheld ▸ List.mem_cons_self)
  rw [hread] at halone
  cases halone
  exact ⟨hapart, hanswers, hsame.trans hheld, htogether⟩

end Workshop

end Typecase
