import Typecase.Proofs.Resolver.Offers

/-!
# The first face of the best offer

Without a temp file the picked offer names the face that is taken, and with one it is the first
face. But for that the two strategies say the same of any offers, word for word.
-/

namespace Typecase

variable {σ τ : Type}

/-- The offer, with the first face of its file named. -/
def FontOffer.firstFace (o : FontOffer) : FontOffer := { o with face := 0 }

/-! ## Without files -/

namespace Factory

theorem usable_map_firstFace (offers : List FontOffer) (buffers : Buffers) :
    FontOffer.usable (offers.map FontOffer.firstFace) buffers =
      (FontOffer.usable offers buffers).map FontOffer.firstFace := by
  rw [FontOffer.usable, FontOffer.usable, List.filter_map]
  rfl

/-- The pick does not look at faces. -/
theorem bestOffer_map_firstFace (offers : List FontOffer) (buffers : Buffers) :
    bestOffer (offers.map FontOffer.firstFace) buffers =
      (bestOffer offers buffers).map fun pick => (pick.1.firstFace, pick.2) := by
  unfold bestOffer
  rw [usable_map_firstFace, bestMatch_map]
  change (Option.map FontOffer.firstFace (bestMatch FontOffer.cut _ _)).bind _ = _
  cases bestMatch FontOffer.cut .normal (FontOffer.usable offers buffers) with
  | none => rfl
  | some best =>
    change (buffers.lookup best.uri).bind _ = ((buffers.lookup best.uri).bind _).map _
    cases buffers.lookup best.uri <;> rfl

end Factory

/-! ## Side by side -/

/-- What is wrong with the bytes of a font is malformed from the start. -/
theorem verdict_ofFace (bytes : Bytes) (face : UInt32) :
    verdict (FontData.ofFace bytes face) = (FontData.ofFace bytes face).mapError .fault := by
  unfold FontData.ofFace
  cases Font.directory bytes face.toNat <;> rfl

namespace Resolver

variable {r : Resolver σ FontData} {dir : Path} {scene : Scene σ}

theorem direct_offers (hfactory : r.factory = Factory.fontData) (offers : List FontOffer)
    (buffers : Buffers) :
    ((r.under .direct).createFromOffers dir offers buffers scene).1 =
      match Factory.bestOffer offers buffers with
      | none => .error (.fault .noMatch)
      | some (best, bytes) => (FontData.ofFace bytes best.face).mapError .fault := by
  cases offers with
  | nil => rfl
  | cons o offers =>
    change (r.factory.buildBuffers (o :: offers) buffers scene).1.mapError Halt.fault = _
    rw [hfactory]
    change (Factory.readBuffers (o :: offers) buffers).mapError Halt.fault = _
    rw [Factory.readBuffers]
    cases Factory.bestOffer (o :: offers) buffers <;> rfl

theorem build_fontData (hfactory : r.factory = Factory.fontData) {path : Path} {bytes : Bytes}
    (hread : scene.files.read path = .ok bytes) :
    (r.factory.build path scene).1 = FontData.ofBytes bytes := by
  have hparse : r.factory.Parses (fun font => font) FontData.ofBytes :=
    hfactory ▸ Factory.parses_fontData
  rw [Factory.build_apply, ← hparse path bytes { scene with calls := scene.calls ++ _ } hread]
  exact (congrFun Except.map_id _).symm

theorem staged_offers (hfactory : r.factory = Factory.fontData)
    (hadmitted : r.stager.Admitted dir scene.files) (offers : List FontOffer) (buffers : Buffers) :
    ((r.under .staged).createFromOffers dir offers buffers scene).1 =
      match Factory.bestOffer offers buffers with
      | none => .error (.fault .noMatch)
      | some (_, bytes) =>
        if r.stager.CanBuffer then (FontData.ofFace bytes 0).mapError .fault
        else .error .noBuffer := by
  rw [createFromOffers_eq, offersPlan_staged]
  cases Factory.bestOffer offers buffers with
  | none => rfl
  | some pick =>
    obtain ⟨path, hfree⟩ := Stager.exists_firstFree_of_admitted hadmitted
    by_cases hbuffer : r.stager.CanBuffer
    · obtain ⟨path, place, mid, -, hmid, -, hmade⟩ :=
        builtFrom_stage (r := r.under .staged) pick.2 hfree hbuffer
      simp only [carryOut, hmade, if_pos hbuffer]
      change verdict (r.factory.build path mid).1 = _
      rw [build_fontData hfactory hmid.read, FontData.ofBytes, verdict_ofFace]
    · simp only [carryOut, if_neg hbuffer]
      exact stage_without_buffer (r := r.under .staged) pick.2 hadmitted hbuffer

/-- **Two strategies for offers.** A temp file makes no difference but that of the face: what comes
out with it is what comes out without it if every offer names its first face. Both strategies build
from the same offer, and where no offer is usable both say so. -/
theorem offers_differ_in_face_only (hfactory : r.factory = Factory.fontData)
    (hadmitted : r.stager.Admitted dir scene.files) (offers : List FontOffer)
    (buffers : Buffers) :
    let made := fun strategy offers =>
      ((r.under strategy).createFromOffers dir offers buffers scene).1
    (r.stager.CanBuffer →
      made .staged offers = made .direct (offers.map FontOffer.firstFace)) ∧
    ((∀ o ∈ offers, ¬ o.Usable buffers) →
      made .direct offers = .error (.fault .noMatch) ∧
        made .staged offers = .error (.fault .noMatch)) ∧
    ∀ i best bytes, FontOffer.Picked offers buffers i best →
      buffers.lookup best.uri = some bytes →
      made .direct offers = (FontData.ofFace bytes best.face).mapError .fault ∧
        made .staged offers =
          if r.stager.CanBuffer then (FontData.ofFace bytes 0).mapError .fault
          else .error .noBuffer := by
  intro made
  have hdirect : ∀ offers, made .direct offers = _ := fun offers =>
    direct_offers hfactory offers buffers
  have hstaged := staged_offers hfactory hadmitted offers buffers
  refine ⟨?_, ?_, ?_⟩
  · intro hbuffer
    rw [hdirect, Factory.bestOffer_map_firstFace]
    refine hstaged.trans ?_
    cases Factory.bestOffer offers buffers with
    | none => rfl
    | some pick => exact if_pos hbuffer
  · intro hnone
    have hpick := Factory.bestOffer_eq_none_iff.mpr hnone
    rw [hpick] at hstaged
    exact ⟨by rw [hdirect, hpick], hstaged⟩
  · intro i best bytes hi hbytes
    have hpick := (Factory.bestOffer_eq_some_iff best bytes).mpr ⟨⟨i, hi⟩, hbytes⟩
    rw [hpick] at hstaged
    exact ⟨by rw [hdirect, hpick], hstaged⟩

/-- The picked offer names the second face of its collection. With a temp file the first one comes
out. -/
theorem slanted_offer_loses_its_face :
    let made := fun strategy offers buffers =>
      ((hastyFonts.under strategy).createFromOffers ⟨"/"⟩ offers buffers bareDesk.scene).1
    hastyFonts.stager.Admitted ⟨"/"⟩ bareDesk.scene.files ∧
    (hastyFonts.stager.CanBuffer ∧ made .staged mixedOffers mixedBuffers =
      made .direct (mixedOffers.map FontOffer.firstFace) mixedBuffers) ∧
    ((∀ o ∈ mixedOffers, ¬ o.Usable []) ∧
      made .staged mixedOffers [] = .error (.fault .noMatch)) ∧
    (∃ i best, FontOffer.Picked mixedOffers mixedBuffers i best ∧
      mixedBuffers.lookup best.uri = some twoFaces) ∧
    made .direct mixedOffers mixedBuffers = .ok ⟨twoFaces, 1, 1000⟩ ∧
    made .staged mixedOffers mixedBuffers = .ok ⟨twoFaces, 0, 1000⟩ := by
  have hadmitted : hastyFonts.stager.Admitted ⟨"/"⟩ bareDesk.scene.files := ⟨0, by decide, _, rfl⟩
  have hdiffer := fun buffers =>
    @offers_differ_in_face_only Nat hastyFonts ⟨"/"⟩ bareDesk.scene rfl hadmitted mixedOffers buffers
  have hbuffer : hastyFonts.stager.CanBuffer := by decide
  have hnone : ∀ o ∈ mixedOffers, ¬ o.Usable [] := by decide
  obtain ⟨⟨i, hi⟩, hbytes⟩ := (Factory.bestOffer_eq_some_iff _ _).mp bestOffer_mixed
  obtain ⟨hdirect, hstaged⟩ := (hdiffer mixedBuffers).2.2 i _ _ hi hbytes
  refine ⟨hadmitted, ⟨hbuffer, (hdiffer mixedBuffers).1 hbuffer⟩,
    ⟨hnone, ((hdiffer []).2.1 hnone).2⟩, ⟨i, _, hi, hbytes⟩, ?_, ?_⟩
  · exact hdirect.trans (by decide)
  · exact hstaged.trans (by decide)

end Resolver

end Typecase
