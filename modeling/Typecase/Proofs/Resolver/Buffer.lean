import Typecase.Proofs.Resolver.Plan
import Typecase.Proofs.Resolver.Transparency
import Typecase.Proofs.Settings.Dial
import Typecase.Proofs.Staging.Ownership

/-!
# Copies that no buffer can be had for

The environment may ask for more bytes at a time than any buffer can have. Nothing checks this
before the first copy, which then stops short. All else that can go wrong is reported as a fault.
-/

namespace Typecase

variable {σ τ : Type}

/-! ## Copies -/

namespace Stager

theorem copyToFile_eq_noBuffer_iff (s : Stager) (p : Path) (source : Stream) (scene : Scene σ) :
    (s.copyToFile p source scene).1.outcome = .error .noBuffer ↔
      ¬ s.CanBuffer ∧ ∃ opened, scene.files.openEmptied p = .ok opened := by
  cases hopen : scene.files.openEmptied p with
  | error why =>
    obtain ⟨notes, hcopy⟩ := s.copyToFile_of_refused hopen source
    simp [hcopy]
  | ok opened =>
    obtain ⟨buffers, notes, hcopy⟩ := s.copyToFile_of_opened hopen source
    rw [hcopy]
    simp [copyOutcome_eq_noBuffer_iff]

theorem copyResourceToBuffer_eq_noBuffer_iff (s : Stager) (dir : Path) (resources : Resources)
    (id : ResourceId) (scene : Scene σ) :
    (s.copyResourceToBuffer dir resources id scene).1 = .error .noBuffer ↔
      ¬ s.CanBuffer ∧ (∃ stream, resources.openRaw id = .ok stream) ∧
        s.Admitted dir scene.files := by
  rw [admitted_iff_exists_firstFree, ← and_assoc]
  cases hfree : s.firstFree dir scene.files with
  | none => simp [(copyResourceToBuffer_of_none hfree resources id).1]
  | some p =>
    obtain ⟨bytes, hmapped, -, -⟩ := copyResourceToBuffer_of_some hfree resources id
    rw [hmapped, ← s.resourceOutcome_eq_noBuffer_iff resources id p]
    cases s.resourceOutcome resources id p <;> simp [Except.map]

end Stager

/-! ## Builds -/

/-- The package is known that the result would be remembered under, if it would be remembered. -/
def Request.Known : Request → Prop
  | .find .. | .offers .. => True
  | .fontFile _ resources id _ | .family _ _ resources id _ =>
    ∃ package, resources.packageName id = .ok package

/-- A source is staged that has a stream to read from, in a directory with a free name. -/
def Plan.Copies (files : Store) (s : Stager) (plan : Plan σ τ) : Prop :=
  ∃ dir source, plan = .stage dir source ∧ source.Opens ∧ s.Admitted dir files

namespace Resolver

theorem carryOut_eq_noBuffer_iff (r : Resolver σ τ) (plan : Plan σ τ) (scene : Scene σ) :
    (r.carryOut plan scene).1 = .error .noBuffer ↔
      ¬ r.stager.CanBuffer ∧ plan.Copies scene.files r.stager := by
  unfold Plan.Copies
  cases plan with
  | fail why => simp [carryOut]
  | delegate call inner =>
    simp only [carryOut, Act.bind_apply, Act.called_apply, Act.pure_apply]
    cases (inner _).1 <;> simp [Except.mapError]
  | stage dir source =>
    rw [carryOut, stage_eq_noBuffer_iff]
    simp

theorem buildAndRemember_eq_noBuffer_iff (resources : Resources) (id : ResourceId) (style : Style)
    (build : Act σ (Except (Halt TypefaceFault) τ)) (desk : Desk σ τ) :
    (buildAndRemember resources id style build desk).1 = .error .noBuffer ↔
      (∃ package, resources.packageName id = .ok package) ∧
        (build (desk.scene.asked id)).1 = .error .noBuffer := by
  cases hpackage : resources.packageName id with
  | error why => simp [buildAndRemember_of_unknown hpackage]
  | ok package =>
    rw [fst_buildAndRemember hpackage]
    simp

/-- A request stops short exactly if it gets as far as a copy, and there is no buffer for it. -/
theorem perform_eq_noBuffer_iff (r : Resolver σ τ) (q : Request) (desk : Desk σ τ) :
    (r.perform q desk).1 = .built (.error .noBuffer) ↔
      ¬ r.stager.CanBuffer ∧ q.Known ∧
        ∃ plan, r.plan? q = some plan ∧ plan.Copies desk.scene.files r.stager := by
  cases q with
  | find resources id style => simp [perform_find, plan?]
  | fontFile dir resources id style =>
    simp only [perform_fontFile, Reply.built.injEq, buildAndRemember_eq_noBuffer_iff, plan?,
      Option.some.injEq, exists_eq_left', Request.Known]
    rw [show r.buildStaged dir resources id = r.carryOut (.stage dir (.resource resources id))
      from rfl, carryOut_eq_noBuffer_iff]
    exact and_left_comm
  | family dir family resources id style =>
    simp only [perform_family, Reply.built.injEq, buildAndRemember_eq_noBuffer_iff, plan?,
      Option.some.injEq, exists_eq_left', Request.Known]
    rw [buildEntry_eq, carryOut_eq_noBuffer_iff]
    exact and_left_comm
  | offers dir offers buffers =>
    simp only [perform_offers, Reply.built.injEq, plan?, Option.some.injEq, exists_eq_left',
      Request.Known, true_and]
    rw [createFromOffers_eq, carryOut_eq_noBuffer_iff]

end Resolver

/-! ## What the environment asks for -/

namespace Settings

/-- The stager of one who heeds the environment. -/
def stager (lookup : String → Option String) (who : Identity) : Stager :=
  ⟨(ofLookup lookup).staging, who⟩

theorem canBuffer_stager_iff (lookup : String → Option String) (who : Identity) :
    (stager lookup who).CanBuffer ↔ ∀ n, Dial.chunk.Sets lookup n → n ≤ Stager.maxBuffer := by
  have hpos := (Dial.chunk.value_in_range lookup).1
  have hbuffer : (stager lookup who).CanBuffer ↔
      Dial.chunk.value (ofLookup lookup) ≤ Stager.maxBuffer := by
    -- A chunk of 0 would count as 1, but the environment cannot set one.
    change max (Dial.chunk.value (ofLookup lookup)) 1 ≤ Stager.maxBuffer ↔ _
    rw [Nat.max_eq_left hpos]
  rw [hbuffer]
  constructor
  · intro hfits n hn
    rwa [Dial.value_of_sets hn] at hfits
  · intro hsmall
    rcases (Dial.chunk.value_eq_iff lookup _).mp rfl with hsets | ⟨hdefault, -⟩
    · exact hsmall _ hsets
    · rw [← hdefault]
      decide

/-- **The environment can stop copies short.** There is no buffer exactly if the variable spells a
larger number than a buffer can have bytes, and the number is taken all the same. Then a copy stops
short if its file opens, and so do a resource on its way to memory and a request on a resolver if
they get as far as a copy. Otherwise they all come to a result or a fault. -/
theorem copies_stop_short_iff (lookup : String → Option String) (who : Identity) :
    let s := stager lookup who
    (¬ s.CanBuffer ↔ ∃ n, Dial.chunk.Sets lookup n ∧ Stager.maxBuffer < n) ∧
    (∀ (p : Path) (source : Stream) (scene : Scene σ),
      (s.copyToFile p source scene).1.outcome = .error .noBuffer ↔
        ¬ s.CanBuffer ∧ ∃ opened, scene.files.openEmptied p = .ok opened) ∧
    (∀ (dir : Path) (resources : Resources) (id : ResourceId) (scene : Scene σ),
      (s.copyResourceToBuffer dir resources id scene).1 = .error .noBuffer ↔
        ¬ s.CanBuffer ∧ (∃ stream, resources.openRaw id = .ok stream) ∧
          s.Admitted dir scene.files) ∧
    ∀ (r : Resolver σ τ) (q : Request) (desk : Desk σ τ),
      ({ r with stager := s }.perform q desk).1 = .built (.error .noBuffer) ↔
        ¬ s.CanBuffer ∧ q.Known ∧
          ∃ plan, r.plan? q = some plan ∧ plan.Copies desk.scene.files s := by
  intro s
  refine ⟨?_, s.copyToFile_eq_noBuffer_iff, s.copyResourceToBuffer_eq_noBuffer_iff, ?_⟩
  · rw [canBuffer_stager_iff]
    push Not
    rfl
  · intro r q desk
    exact Resolver.perform_eq_noBuffer_iff { r with stager := s } q desk

/-- The smallest number of bytes that no buffer has room for. -/
def overlong (name : String) : Option String :=
  if name = "FONTSTAGE_COPY_BUFFER" then some "9223372036854775808" else none

theorem overlong_buffer_is_accepted :
    let s := stager overlong ⟨7, 3⟩
    ofLookup overlong = { staging := { chunkSize := 0x8000000000000000 } } ∧ ¬ s.CanBuffer ∧
    (s.copyToFile ⟨"/f"⟩ (.ofBytes [1]) Bench.bareScene).1.outcome = .error .noBuffer ∧
    (s.copyResourceToBuffer ⟨"/"⟩ (Resolver.bundle "a" [.data [1]]) 5 Bench.bareScene).1 =
      .error .noBuffer ∧
    ({ Resolver.hastyFonts with stager := s }.createFromFile ⟨"/"⟩
      (Resolver.bundle "a" [.data [1]]) 5 .normal Resolver.bareDesk).1 = .error .noBuffer := by
  decide +kernel

end Settings

end Typecase
