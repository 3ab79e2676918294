import Typecase.Proofs.Family.BestMatch
import Typecase.Proofs.Resolver.Attribution
import Typecase.Proofs.Resolver.Strategies
import Typecase.Proofs.Staging.Copy

/-!
# Typefaces from offers

Both strategies pick the same offer: the first of the best among those that were delivered and have
a buffer. With a temp file, its buffer is all that the factory gets to see.
-/

namespace Typecase

variable {σ τ : Type}

/-! ## The pick -/

namespace FontOffer

/-- The offer was delivered, and there is a buffer for it. -/
def Usable (buffers : Buffers) (o : FontOffer) : Prop :=
  o.resultCode = delivered ∧ (buffers.lookup o.uri).isSome = true

instance (buffers : Buffers) (o : FontOffer) : Decidable (o.Usable buffers) :=
  inferInstanceAs (Decidable (_ ∧ _))

/-- At this place of the list is the usable offer that is closest to regular. -/
def Picked (offers : List FontOffer) (buffers : Buffers) (i : ℕ) (best : FontOffer) : Prop :=
  FirstBest FontOffer.cut .normal (fun o => decide (o.Usable buffers)) offers i best

variable {offers : List FontOffer} {buffers : Buffers} {i : ℕ} {best : FontOffer}

theorem Picked.usable (h : Picked offers buffers i best) : best.Usable buffers :=
  of_decide_eq_true h.passes

theorem usable_eq (offers : List FontOffer) (buffers : Buffers) :
    usable offers buffers = offers.filter fun o => decide (o.Usable buffers) := by
  unfold usable
  apply List.filter_congr
  intro o _
  rw [Bool.eq_iff_iff, Bool.and_eq_true, beq_iff_eq, decide_eq_true_iff]
  rfl

theorem bestMatch_usable_eq_some_iff (offers : List FontOffer) (buffers : Buffers)
    (best : FontOffer) :
    bestMatch FontOffer.cut .normal (usable offers buffers) = some best ↔
      ∃ i, Picked offers buffers i best := by
  rw [usable_eq]
  exact bestMatch_filter_eq_some_iff offers best

theorem bestMatch_usable_eq_none_iff (offers : List FontOffer) (buffers : Buffers) :
    bestMatch FontOffer.cut .normal (usable offers buffers) = none ↔
      ∀ o ∈ offers, ¬ o.Usable buffers := by
  rw [bestMatch_eq_none_iff, usable_eq, List.filter_eq_nil_iff]
  simp

/-- The buffer of the pick is never missing. -/
theorem exists_buffer (h : bestMatch FontOffer.cut .normal (usable offers buffers) = some best) :
    ∃ bytes, buffers.lookup best.uri = some bytes := by
  obtain ⟨i, hi⟩ := (bestMatch_usable_eq_some_iff offers buffers best).mp h
  exact Option.isSome_iff_exists.mp hi.usable.2

end FontOffer

namespace Factory

open FontOffer

variable {offers : List FontOffer} {buffers : Buffers}

theorem bestOffer_eq_some_iff (best : FontOffer) (bytes : Bytes) :
    bestOffer offers buffers = some (best, bytes) ↔
      (∃ i, Picked offers buffers i best) ∧ buffers.lookup best.uri = some bytes := by
  rw [← bestMatch_usable_eq_some_iff]
  unfold bestOffer
  constructor
  · intro h
    obtain ⟨best', hbest, h⟩ := Option.bind_eq_some_iff.mp h
    obtain ⟨bytes', hbytes, h⟩ := Option.bind_eq_some_iff.mp h
    cases h
    exact ⟨hbest, hbytes⟩
  · rintro ⟨hbest, hbytes⟩
    simp [hbest, hbytes]

theorem bestOffer_eq_none_iff :
    bestOffer offers buffers = none ↔ ∀ o ∈ offers, ¬ o.Usable buffers := by
  rw [← bestMatch_usable_eq_none_iff]
  unfold bestOffer
  cases hbest : bestMatch FontOffer.cut .normal (usable offers buffers) with
  | none => simp
  | some best =>
    obtain ⟨bytes, hbytes⟩ := exists_buffer hbest
    simp [hbytes]

/-- Buffers that are not picked may be others, or may be missing. -/
theorem bestOffer_congr {buffers' : Buffers}
    (hfewer : ∀ uri, (buffers'.lookup uri).isSome = true → (buffers.lookup uri).isSome = true)
    (hbest : ∀ i best, Picked offers buffers i best →
      buffers'.lookup best.uri = buffers.lookup best.uri) :
    bestOffer offers buffers' = bestOffer offers buffers := by
  have husable : ∀ o : FontOffer, o.Usable buffers' → o.Usable buffers :=
    fun o ho => ⟨ho.1, hfewer o.uri ho.2⟩
  cases hpick : bestOffer offers buffers with
  | none =>
    rw [bestOffer_eq_none_iff] at hpick ⊢
    exact fun o ho h => hpick o ho (husable o h)
  | some pick =>
    obtain ⟨best, bytes⟩ := pick
    rw [bestOffer_eq_some_iff] at hpick ⊢
    obtain ⟨⟨i, hi⟩, hbytes⟩ := hpick
    have hsame := hbest i best hi
    have hpasses : best.Usable buffers' := ⟨hi.usable.1, by rw [hsame]; exact hi.usable.2⟩
    refine ⟨⟨i, hi.of_fewer (decide_eq_true hpasses) fun o ho => ?_⟩, by rw [hsame, hbytes]⟩
    exact decide_eq_true (husable o (of_decide_eq_true ho))

end Factory

/-! ## From a buffer -/

namespace Resolver

variable {r : Resolver σ τ} {dir : Path} {scene : Scene σ} {path : Path}

/-- A file is staged with these bytes and nothing else, and the factory is handed it at once. What
the factory says is the result, and the file is gone after that. -/
def BuiltFrom (r : Resolver σ τ) (dir : Path) (bytes : Bytes) (scene : Scene σ)
    (made : Except (Halt TypefaceFault) τ × Scene σ) : Prop :=
  ∃ path place mid, r.stager.firstFree dir scene.files = some path ∧
    Midway scene path place bytes mid ∧ mid.calls = scene.calls ∧
    made = (verdict (r.factory.build path mid).1,
      ((⟨path⟩ : TempFile).release (r.factory.build path mid).2).2)

theorem builtFrom_stage (bytes : Bytes) (hfree : r.stager.firstFree dir scene.files = some path)
    (hbuffer : r.stager.CanBuffer) :
    r.BuiltFrom dir bytes scene (r.stage dir (.buffer bytes) scene) := by
  obtain ⟨-, hnames, hnone⟩ := Stager.firstFree_eq_some hfree
  have hroot := hnames.ne_root
  obtain ⟨notes, hacquire⟩ := r.stager.acquire_eq dir scene
  rw [hfree] at hacquire
  have hnames' : (scene.files.staged path.place []).Names path path.place :=
    (Store.sameElsewhere_staged _ hroot []).names hnames (by simp [hnone])
  have hopen : ({ scene with files := scene.files.staged path.place [], notes } :
      Scene σ).files.openEmptied path = _ :=
    hnames'.openEmptied (Store.look_staged_self _ hroot [])
  obtain ⟨notes', hcopy⟩ := Stager.copyBufferToFile_eq hbuffer hopen bytes
  rw [Store.setBody_staged, Store.setBody_staged] at hcopy
  refine ⟨path, path.place,
    { scene with files := scene.files.staged path.place bytes, notes := notes' }, hfree,
    ⟨hnames, hnone, rfl, rfl⟩, rfl, ?_⟩
  rw [← buildFrom_buffer_eq]
  simp only [buildFrom, Act.bind_apply, hacquire, hcopy, Act.pure_apply, mapError_eq_verdict]

theorem stage_without_buffer (bytes : Bytes) (hadmitted : r.stager.Admitted dir scene.files)
    (hbuffer : ¬ r.stager.CanBuffer) : (r.stage dir (.buffer bytes) scene).1 = .error .noBuffer :=
  (r.stage_eq_noBuffer_iff dir (.buffer bytes) scene).mpr ⟨hbuffer, trivial, hadmitted⟩

theorem stage_buffer_ne_provider (bytes : Bytes) (reason : String) :
    (r.stage dir (.buffer bytes) scene).1 ≠ .error (.fault (.provider reason)) := by
  cases hfree : r.stager.firstFree dir scene.files with
  | none =>
    obtain ⟨notes, hstage⟩ := stage_of_refused (.buffer bytes) hfree
    simp [hstage]
  | some path =>
    by_cases hbuffer : r.stager.CanBuffer
    · obtain ⟨path, place, mid, -, -, -, hmade⟩ := builtFrom_stage bytes hfree hbuffer
      rw [hmade]
      intro h
      obtain ⟨why, -, hmalformed⟩ := (verdict_eq_error_iff _ _).mp h
      cases hmalformed
    · have hadmitted := Stager.admitted_iff_exists_firstFree.mpr ⟨path, hfree⟩
      simp [stage_without_buffer bytes hadmitted hbuffer]

/-! ## The offers of a provider -/

theorem offersPlan_staged (r : Resolver σ τ) (dir : Path) (offers : List FontOffer)
    (buffers : Buffers) :
    (r.under .staged).offersPlan dir offers buffers =
      match Factory.bestOffer offers buffers with
      | none => .fail .noMatch
      | some (_, bytes) => .stage dir (.buffer bytes) := by
  unfold offersPlan Factory.bestOffer
  cases offers with
  | nil => rfl
  | cons o offers =>
    simp only [under, List.isEmpty_cons, Bool.false_eq_true, if_false]
    cases hbest : bestMatch FontOffer.cut .normal (FontOffer.usable (o :: offers) buffers) with
    | none => rfl
    | some best =>
      obtain ⟨bytes, hbytes⟩ := FontOffer.exists_buffer hbest
      simp [hbytes]

/-- **The best offer is built.** With a temp file, the first of the usable offers that are closest
to weight 400 and upright is built from: its buffer is staged, and what the factory says to that
file is the result, with its faults as malformed. Where no offer is usable, nothing is touched. The
pick always has a buffer, so no fault is blamed on the provider. Other buffers do not count. -/
theorem best_offer_is_built (r : Resolver σ τ) (dir : Path) (offers : List FontOffer)
    (buffers : Buffers) (scene : Scene σ) :
    let made := (r.under .staged).createFromOffers dir offers buffers scene
    ((∀ o ∈ offers, ¬ o.Usable buffers) → made = (.error (.fault .noMatch), scene)) ∧
    ((∃ o ∈ offers, o.Usable buffers) →
      ∃ i best bytes, FontOffer.Picked offers buffers i best ∧
        buffers.lookup best.uri = some bytes ∧
        (r.stager.Admitted dir scene.files →
          (r.stager.CanBuffer → r.BuiltFrom dir bytes scene made) ∧
          (¬ r.stager.CanBuffer → made.1 = .error .noBuffer))) ∧
    (∀ (o : FontOffer) (i : ℕ), o.cut.rank .normal i =
      toLex (toLex (((o.cut.weight.toNat : ℤ) - 400).natAbs, o.cut.italic), i)) ∧
    (∀ reason, made.1 ≠ .error (.fault (.provider reason))) ∧
    (∀ best, bestMatch FontOffer.cut .normal (FontOffer.usable offers buffers) = some best →
      ∃ bytes, buffers.lookup best.uri = some bytes) ∧
    ∀ buffers' : Buffers,
      (∀ uri, (buffers'.lookup uri).isSome = true → (buffers.lookup uri).isSome = true) →
      (∀ i best, FontOffer.Picked offers buffers i best →
        buffers'.lookup best.uri = buffers.lookup best.uri) →
      (r.under .staged).createFromOffers dir offers buffers' scene = made := by
  intro made
  have hmade : made = (r.under .staged).carryOut
      (match Factory.bestOffer offers buffers with
        | none => .fail .noMatch
        | some (_, bytes) => .stage dir (.buffer bytes)) scene := by
    rw [← offersPlan_staged, ← createFromOffers_eq]
  refine ⟨?_, ?_, ?_, ?_, ?_, ?_⟩
  · intro hnone
    rw [hmade, Factory.bestOffer_eq_none_iff.mpr hnone]
    rfl
  · rintro ⟨o, ho, husable⟩
    cases hpick : Factory.bestOffer offers buffers with
    | none => exact absurd husable (Factory.bestOffer_eq_none_iff.mp hpick o ho)
    | some pick =>
      obtain ⟨best, bytes⟩ := pick
      rw [hpick] at hmade
      obtain ⟨⟨i, hi⟩, hbytes⟩ := (Factory.bestOffer_eq_some_iff best bytes).mp hpick
      refine ⟨i, best, bytes, hi, hbytes, fun hadmitted => ?_⟩
      obtain ⟨path, hfree⟩ := Stager.exists_firstFree_of_admitted hadmitted
      rw [hmade]
      exact ⟨builtFrom_stage (r := r.under .staged) bytes hfree,
        stage_without_buffer (r := r.under .staged) bytes hadmitted⟩
  · intro o i
    have hweight : Style.normal.weight.toNat = 400 := rfl
    have hitalic : Style.normal.isItalic = false := rfl
    simp [Cut.rank, Cut.misfit, hweight, hitalic]
  · intro reason
    rw [hmade]
    cases Factory.bestOffer offers buffers with
    | none => simp [carryOut]
    | some pick => exact stage_buffer_ne_provider _ reason
  · exact fun best => FontOffer.exists_buffer
  · intro buffers' hfewer hbest
    rw [hmade, createFromOffers_eq, offersPlan_staged, Factory.bestOffer_congr hfewer hbest]

/-! ## Mixed offers -/

/-- The only upright offers of weight 400 have no buffer or were not delivered. Of the two slanted
ones, the first is the second face of a collection. -/
def mixedOffers : List FontOffer := [⟨⟨700, false⟩, "bold", 0, 0⟩, ⟨⟨400, false⟩, "lost", 0, 0⟩,
  ⟨⟨400, false⟩, "bold", 0, 1⟩, ⟨⟨400, true⟩, "slanted", 1, 0⟩, ⟨⟨400, true⟩, "other", 0, 0⟩]

def mixedBuffers : Buffers :=
  [("bold", bareFont 1), ("other", bareFont 2), ("slanted", twoFaces)]

theorem bestOffer_mixed :
    Factory.bestOffer mixedOffers mixedBuffers =
      some (⟨⟨400, true⟩, "slanted", 1, 0⟩, twoFaces) := by
  decide

/-- Staged with a buffer that no memory can hold. -/
def greedyFonts : Resolver Nat FontData where
  factory := Factory.fontData
  strategy := .staged
  stager := ⟨{ chunkSize := 2 ^ 63 }, ⟨7, 5⟩⟩

theorem slanted_offer_is_built :
    let made := fun (r : Resolver Nat FontData) buffers =>
      (r.under .staged).createFromOffers ⟨"/"⟩ mixedOffers buffers bareDesk.scene
    (∀ o ∈ mixedOffers, ¬ o.Usable []) ∧
      made hastyFonts [] = (.error (.fault .noMatch), bareDesk.scene) ∧
    (∃ o ∈ mixedOffers, o.Usable mixedBuffers) ∧
    hastyFonts.stager.Admitted ⟨"/"⟩ bareDesk.scene.files ∧ hastyFonts.stager.CanBuffer ∧
      hastyFonts.BuiltFrom ⟨"/"⟩ twoFaces bareDesk.scene (made hastyFonts mixedBuffers) ∧
      (made hastyFonts mixedBuffers).1 = .ok ⟨twoFaces, 0, 1000⟩ ∧
    greedyFonts.stager.Admitted ⟨"/"⟩ bareDesk.scene.files ∧ ¬ greedyFonts.stager.CanBuffer ∧
      (made greedyFonts mixedBuffers).1 = .error .noBuffer ∧
    made hastyFonts [("slanted", twoFaces)] = made hastyFonts mixedBuffers := by
  intro made
  have hbuilt := fun r : Resolver Nat FontData => fun buffers =>
    best_offer_is_built r ⟨"/"⟩ mixedOffers buffers bareDesk.scene
  have hpicked : ∀ i best bytes, FontOffer.Picked mixedOffers mixedBuffers i best →
      mixedBuffers.lookup best.uri = some bytes →
      best = ⟨⟨400, true⟩, "slanted", 1, 0⟩ ∧ bytes = twoFaces := by
    intro i best bytes hi hbytes
    have hpick := (Factory.bestOffer_eq_some_iff best bytes).mpr ⟨⟨i, hi⟩, hbytes⟩
    rw [bestOffer_mixed] at hpick
    cases hpick
    exact ⟨rfl, rfl⟩
  have hnone : ∀ o ∈ mixedOffers, ¬ o.Usable [] := by decide
  have hsome : ∃ o ∈ mixedOffers, o.Usable mixedBuffers := by decide
  have hadmitted : hastyFonts.stager.Admitted ⟨"/"⟩ bareDesk.scene.files := ⟨0, by decide, _, rfl⟩
  have hgreedy : greedyFonts.stager.Admitted ⟨"/"⟩ bareDesk.scene.files := ⟨0, by decide, _, rfl⟩
  refine ⟨hnone, (hbuilt hastyFonts []).1 hnone, hsome, hadmitted, by decide, ?_, ?_, hgreedy,
    by decide, ?_, ?_⟩
  · obtain ⟨i, best, bytes, hi, hbytes, hmade⟩ := (hbuilt hastyFonts mixedBuffers).2.1 hsome
    rw [← (hpicked i best bytes hi hbytes).2]
    exact (hmade hadmitted).1 (by decide)
  · decide +kernel
  · obtain ⟨i, best, bytes, hi, hbytes, hmade⟩ := (hbuilt greedyFonts mixedBuffers).2.1 hsome
    exact (hmade hgreedy).2 (by decide)
  · refine (hbuilt hastyFonts mixedBuffers).2.2.2.2.2 [("slanted", twoFaces)] ?_ ?_
    · intro uri huri
      by_cases hslanted : uri = "slanted"
      · subst hslanted
        decide
      · simp [List.lookup_cons, beq_false_of_ne hslanted] at huri
    · intro i best hi
      obtain ⟨bytes, hbytes⟩ := Option.isSome_iff_exists.mp hi.usable.2
      rw [(hpicked i best bytes hi hbytes).1]
      decide

end Resolver

end Typecase
