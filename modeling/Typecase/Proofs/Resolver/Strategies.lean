import Typecase.Proofs.Resolver.Plan
import Typecase.Proofs.Resolver.Transparency

/-!
# The two strategies on one family

Both strategies build from the same bytes. Without files they take the face that the family names,
through a file they take the first one. So they agree where the first face is named, or where
neither gives a font.
-/

namespace Typecase

variable {σ τ : Type}

/-! ## The bytes to build from -/

/-- The best font of a family with its bytes, if they can be read to the end. -/
def chosen (fonts : List FontFile) (resources : Resources) (style : Style) :
    Option (FontFile × Bytes) :=
  (bestMatch FontFile.cut style fonts).bind fun best =>
    (resources.bytes? best.file).map fun bytes => (best, bytes)

theorem Resources.bytes?_of_error {resources : Resources} {id : ResourceId} {why : ResourceFault}
    (h : resources.openRaw id = .error why) : resources.bytes? id = none := by
  rw [bytes?, h]
  rfl

/-! ## Without files -/

theorem Factory.toOption_readFamily (fonts : List FontFile) (resources : Resources) (style : Style)
    (s : Scene σ) :
    (readFamily fonts resources style s).1.toOption =
      (chosen fonts resources style).bind fun c => (FontData.ofFace c.2 c.1.face).toOption := by
  unfold readFamily chosen
  cases bestMatch FontFile.cut style fonts with
  | none => rfl
  | some best =>
    simp only [Resources.askStream, Act.bind_apply, Act.called_apply, Act.pure_apply,
      Option.bind_some]
    cases hopen : resources.openRaw best.file with
    | error why =>
      rw [Resources.bytes?_of_error hopen]
      rfl
    | ok stream =>
      dsimp only
      cases hread : stream.readAll with
      | error why => simp [Resources.bytes?, hopen, hread, Except.toOption]
      | ok bytes => simp [Resources.bytes?, hopen, hread, Except.toOption]

/-! ## Through a file -/

theorem toOption_verdict {α : Type} (parsed : Except TypefaceFault α) :
    (verdict parsed).toOption = parsed.toOption := by
  cases parsed with
  | ok typeface => rfl
  | error why => cases why <;> rfl

theorem toOption_mapError {ε ε' α : Type} (x : Except ε α) (f : ε → ε') :
    (x.mapError f).toOption = x.toOption := by
  cases x <;> rfl

namespace Resolver

theorem toOption_stage_of_no_bytes {r : Resolver σ τ} {dir : Path} {resources : Resources}
    {id : ResourceId} {scene : Scene σ}
    (h : r.stager.CanBuffer → resources.bytes? id = none) :
    (r.stage dir (.resource resources id) scene).1.toOption = none := by
  cases hfree : r.stager.firstFree dir scene.files with
  | none =>
    obtain ⟨notes, hstage⟩ := stage_of_refused (.resource resources id) hfree
    rw [hstage]
    rfl
  | some path =>
    cases houtcome : Source.outcome r.stager path (.resource resources id) with
    | error why =>
      rw [(stage_of_unfilled _ hfree houtcome).1]
      rfl
    | ok n =>
      obtain ⟨hbuffer, bytes, hbytes, -⟩ :=
        (Stager.resourceOutcome_eq_ok_iff resources id n).mp houtcome
      rw [h hbuffer] at hbytes
      cases hbytes

variable {r : Resolver σ FontData} {dir : Path}

theorem toOption_stage (hfactory : r.factory = Factory.fontData) {scene : Scene σ}
    (hadmitted : r.stager.Admitted dir scene.files) (resources : Resources) (id : ResourceId) :
    (r.stage dir (.resource resources id) scene).1.toOption =
      (resources.bytes? id).bind fun bytes =>
        if r.stager.CanBuffer then (FontData.ofBytes bytes).toOption else none := by
  cases hbytes : resources.bytes? id with
  | none => exact toOption_stage_of_no_bytes fun _ => hbytes
  | some bytes =>
    rw [Option.bind_some]
    split
    · rename_i hbuffer
      have hparse : r.factory.Parses (fun font => font) FontData.ofBytes :=
        hfactory ▸ Factory.parses_fontData
      have hmade := stage_of_bytes hparse hadmitted hbuffer hbytes
      rw [← toOption_verdict, ← hmade]
      exact congrArg Except.toOption (congrFun Except.map_id _).symm
    · rename_i hbuffer
      exact toOption_stage_of_no_bytes fun h => absurd h hbuffer

/-! ## Side by side -/

def under (r : Resolver σ τ) (strategy : Strategy) : Resolver σ τ := { r with strategy }

variable {fonts : List FontFile} {resources : Resources} {id : ResourceId} {package : String}

theorem toOption_direct (hfactory : r.factory = Factory.fontData)
    (hknown : resources.packageName id = .ok package) (style : Style) (desk : Desk σ FontData) :
    ((r.under .direct).createFromFamily dir (.files fonts) resources id style desk).1.toOption =
      (chosen fonts resources style).bind fun c => (FontData.ofFace c.2 c.1.face).toOption := by
  rw [createFromFamily, fst_buildAndRemember hknown, buildEntry_eq]
  change ((((r.under .direct).factory.fromFamily fonts resources style _).1).mapError
    Halt.fault).toOption = _
  rw [toOption_mapError, under, hfactory]
  exact Factory.toOption_readFamily fonts resources style _

theorem toOption_staged (hfactory : r.factory = Factory.fontData)
    (hknown : resources.packageName id = .ok package) (style : Style) {desk : Desk σ FontData}
    (hadmitted : r.stager.Admitted dir desk.scene.files) :
    ((r.under .staged).createFromFamily dir (.files fonts) resources id style desk).1.toOption =
      (chosen fonts resources style).bind fun c =>
        if r.stager.CanBuffer then (FontData.ofFace c.2 0).toOption else none := by
  rw [createFromFamily, fst_buildAndRemember hknown, buildEntry_eq]
  simp only [entryPlan, under, chosen]
  cases bestMatch FontFile.cut style fonts with
  | none => rfl
  | some best =>
    have hadmitted' : (r.under .staged).stager.Admitted dir (desk.scene.asked id).files := hadmitted
    refine (toOption_stage hfactory hadmitted' resources best.file).trans ?_
    rw [Option.bind_some]
    cases resources.bytes? best.file <;> rfl

end Resolver

/-! ## Where they agree -/

namespace FontData

/-- The bytes hold a font with this face. -/
def Holds (bytes : Bytes) (face : UInt32) : Prop := ∃ font, ofFace bytes face = .ok font

theorem toOption_ofFace_eq_none_iff (bytes : Bytes) (face : UInt32) :
    (ofFace bytes face).toOption = none ↔ ¬ Holds bytes face := by
  unfold Holds
  cases ofFace bytes face <;> simp [Except.toOption]

/-- Different faces make different fonts. -/
theorem toOption_ofFace_eq_iff (bytes : Bytes) (face face' : UInt32) :
    (ofFace bytes face).toOption = (ofFace bytes face').toOption ↔
      face = face' ∨ ¬ Holds bytes face ∧ ¬ Holds bytes face' := by
  rw [← toOption_ofFace_eq_none_iff, ← toOption_ofFace_eq_none_iff]
  constructor
  · intro h
    cases hface : ofFace bytes face with
    | error why =>
      rw [hface] at h
      exact .inr ⟨rfl, h.symm⟩
    | ok font =>
      cases hface' : ofFace bytes face' with
      | error why =>
        rw [hface, hface'] at h
        cases h
      | ok font' =>
        rw [hface, hface'] at h
        cases h
        exact .inl ((data_face_of_ofFace hface).2.symm.trans (data_face_of_ofFace hface').2)
  · rintro (rfl | ⟨h, h'⟩)
    · rfl
    · rw [h, h']

end FontData

namespace Resolver

/-- **Two strategies.** Both read the best file of the family. Without a temp file its own face is
taken, and with one the first face. So they give the same font, or both none, exactly if the best
file names its first face or holds neither of the two. A buffer that cannot exist is as bad as no
first face. -/
theorem strategies_agree_iff {r : Resolver σ FontData} (hfactory : r.factory = Factory.fontData)
    {dir : Path} {fonts : List FontFile} {resources : Resources} {id : ResourceId}
    {package : String} (hknown : resources.packageName id = .ok package) (style : Style)
    {desk : Desk σ FontData} (hadmitted : r.stager.Admitted dir desk.scene.files) :
    let made := fun strategy =>
      ((r.under strategy).createFromFamily dir (.files fonts) resources id style desk).1.toOption
    (made .direct = (chosen fonts resources style).bind fun c =>
      (FontData.ofFace c.2 c.1.face).toOption) ∧
    (made .staged = (chosen fonts resources style).bind fun c =>
      if r.stager.CanBuffer then (FontData.ofFace c.2 0).toOption else none) ∧
    (made .direct = made .staged ↔
      ∀ best bytes, chosen fonts resources style = some (best, bytes) →
        best.face = 0 ∧ r.stager.CanBuffer ∨
          ¬ FontData.Holds bytes best.face ∧
            (r.stager.CanBuffer → ¬ FontData.Holds bytes 0)) := by
  intro made
  have hdirect : made .direct = _ := toOption_direct hfactory hknown style desk
  have hstaged : made .staged = _ := toOption_staged hfactory hknown style hadmitted
  refine ⟨hdirect, hstaged, ?_⟩
  rw [hdirect, hstaged]
  cases hchosen : chosen fonts resources style with
  | none => simp
  | some c =>
    obtain ⟨best, bytes⟩ := c
    rw [Option.bind_some, Option.bind_some]
    by_cases hbuffer : r.stager.CanBuffer
    · rw [if_pos hbuffer, FontData.toOption_ofFace_eq_iff]
      simp [hbuffer]
    · rw [if_neg hbuffer, FontData.toOption_ofFace_eq_none_iff]
      simp [hbuffer]

/-! ## A collection -/

/-- A collection of two fonts without tables. -/
def twoFaces : Bytes :=
  [0x74, 0x74, 0x63, 0x66, 0, 1, 0, 0, 0, 0, 0, 2, 0, 0, 0, 20, 0, 0, 0, 32,
    0, 1, 0, 0, 0, 0, 0, 0, 0, 0, 0, 0,
    0, 1, 0, 0, 0, 0, 0, 0, 0, 0, 0, 0]

/-- The regular font is the first face of the collection, and the bold one the second. -/
def twoCuts : List FontFile := [⟨⟨400, false⟩, 9, 0, none⟩, ⟨⟨700, false⟩, 9, 1, none⟩]

theorem regular_cut_agrees :
    hastyFonts.stager.Admitted ⟨"/"⟩ bareDesk.scene.files ∧
    let made := fun strategy => ((hastyFonts.under strategy).createFromFamily ⟨"/"⟩ (.files twoCuts)
      (bundle "a" [.data twoFaces]) 5 .normal bareDesk).1.toOption
    made .direct = some ⟨twoFaces, 0, 1000⟩ ∧ made .direct = made .staged := by
  have hadmitted : hastyFonts.stager.Admitted ⟨"/"⟩ bareDesk.scene.files := ⟨0, by decide, _, rfl⟩
  obtain ⟨hdirect, -, hiff⟩ := @strategies_agree_iff Nat hastyFonts rfl ⟨"/"⟩ twoCuts
    (bundle "a" [.data twoFaces]) 5 "a" rfl .normal bareDesk hadmitted
  have hchosen : chosen twoCuts (bundle "a" [.data twoFaces]) .normal =
      some (⟨⟨400, false⟩, 9, 0, none⟩, twoFaces) := by
    decide
  refine ⟨hadmitted, hdirect.trans ?_, hiff.mpr ?_⟩
  · rw [hchosen]
    decide
  · intro best bytes h
    rw [hchosen, Option.some.injEq, Prod.mk.injEq] at h
    obtain ⟨rfl, -⟩ := h
    exact .inl ⟨rfl, by decide⟩

/-- The bold font of the collection is lost on its way through a file: the regular one comes out. -/
theorem staged_bold_is_regular :
    hastyFonts.stager.Admitted ⟨"/"⟩ bareDesk.scene.files ∧
    let made := fun strategy => ((hastyFonts.under strategy).createFromFamily ⟨"/"⟩ (.files twoCuts)
      (bundle "a" [.data twoFaces]) 5 .bold bareDesk).1
    made .direct = .ok ⟨twoFaces, 1, 1000⟩ ∧ made .staged = .ok ⟨twoFaces, 0, 1000⟩ := by
  refine ⟨⟨0, by decide, _, rfl⟩, ?_⟩
  decide +kernel

end Resolver

end Typecase
