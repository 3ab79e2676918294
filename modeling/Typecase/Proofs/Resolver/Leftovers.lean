import Typecase.Proofs.Resolver.History
import Typecase.Proofs.Resolver.Plan

/-!
# No request leaves a file behind

A request that stages leaves the files as they were, whatever its outcome. A request that does not
stage leaves the files to the collaborator that it calls.
-/

namespace Typecase

variable {σ τ : Type}

/-! ## Work that has no eye for files -/

def Desk.withFiles (desk : Desk σ τ) (files : Store) : Desk σ τ :=
  { desk with scene := { desk.scene with files } }

namespace Work

variable {α β : Type}

/-- The work does the same whatever the files are, and leaves them. -/
def Oblivious (w : Work σ τ α) : Prop :=
  ∀ (desk : Desk σ τ) (files : Store),
    w (desk.withFiles files) = ((w desk).1, (w desk).2.withFiles files)

theorem Oblivious.pure (x : α) : Oblivious (σ := σ) (τ := τ) (pure x) := fun _ _ => rfl

theorem Oblivious.bind {w : Work σ τ α} {f : α → Work σ τ β} (hw : w.Oblivious)
    (hf : ∀ x, (f x).Oblivious) : (w >>= f).Oblivious := by
  intro desk files
  rw [Act.bind_apply, hw desk files, hf]
  rfl

theorem oblivious_note (n : Note) : (act (Act.note n) : Work σ τ Unit).Oblivious :=
  fun _ _ => rfl

theorem oblivious_called (c : Call) : (act (Act.called c) : Work σ τ Unit).Oblivious :=
  fun _ _ => rfl

theorem oblivious_lookUp (key : ResourceKey) : (lookUp key : Work σ τ (Option τ)).Oblivious :=
  fun _ _ => rfl

theorem oblivious_store (key : ResourceKey) (typeface : τ) :
    (store key typeface : Work σ τ Unit).Oblivious := by
  intro desk files
  simp only [store, Act.bind_apply, Act.get_apply, Act.modify_apply, Desk.withFiles]
  cases (desk.cache.insert key typeface).1 <;> rfl

theorem act_bind (a : Act σ α) (f : α → Act σ β) :
    (act (a >>= f) : Work σ τ β) = act a >>= fun x => act (f x) := rfl

/-- The work is made of steps that have no eye for files, and of actions of this kind. -/
inductive FilesOnlyIn (kind : Act σ (Except TypefaceFault τ) → Prop) :
    {α : Type} → Work σ τ α → Prop
  | own {α : Type} {w : Work σ τ α} (h : w.Oblivious) : FilesOnlyIn kind w
  | call {a : Act σ (Except TypefaceFault τ)} (h : kind a) : FilesOnlyIn kind (act a)
  | bind {α β : Type} {w : Work σ τ α} {f : α → Work σ τ β} (hw : FilesOnlyIn kind w)
      (hf : ∀ x, FilesOnlyIn kind (f x)) : FilesOnlyIn kind (w >>= f)

end Work

namespace Resolver

/-! ## What a request works with -/

/-- The request goes through a temp file. -/
def Stages (r : Resolver σ τ) : Request → Prop
  | .find .. => False
  | .fontFile .. => True
  | .family _ (.provider _) .. => False
  | .family _ (.files _) .. => r.strategy = .staged
  | .offers .. => r.strategy = .staged

/-- The request leaves its build to this action of a collaborator. -/
def Delegates (r : Resolver σ τ) (q : Request) (inner : Act σ (Except TypefaceFault τ)) : Prop :=
  ∃ call, r.plan? q = some (.delegate call inner)

def withFile (r : Resolver σ τ) (fromFile : Path → Act σ (Except TypefaceFault τ)) :
    Resolver σ τ :=
  { r with factory := { r.factory with fromFile } }

/-- The request hands over paths in these states only: what the factory makes of a file in any other
state is of no matter. -/
def HandsOnly (r : Resolver σ τ) (q : Request) (desk : Desk σ τ) (good : Path → Scene σ → Prop) :
    Prop :=
  ∀ fromFile, (∀ p s, good p s → fromFile p s = r.factory.fromFile p s) →
    (r.withFile fromFile).perform q desk = r.perform q desk

/-- No collaborator touches a file but the one that is handed over. -/
structure Careful (r : Resolver σ τ) : Prop where
  tidy : r.factory.Tidy
  leaves : ∀ q inner, r.Delegates q inner → ∀ s : Scene σ, s.files.SameSight (inner s).2.files

/-! ## The files after a request -/

theorem carryOut_sameSight {r : Resolver σ τ} (htidy : r.factory.Tidy) {plan : Plan σ τ}
    (h : ∀ call inner, plan = .delegate call inner →
      ∀ s : Scene σ, s.files.SameSight (inner s).2.files) (scene : Scene σ) :
    scene.files.SameSight (r.carryOut plan scene).2.files := by
  cases plan with
  | fail why => exact .refl _
  | delegate call inner => exact h call inner rfl { scene with calls := _ }
  | stage dir source => exact stage_sameSight htidy dir source scene

theorem buildAndRemember_sameSight {resources : Resources} {id : ResourceId} {style : Style}
    {build : Act σ (Except (Halt TypefaceFault) τ)}
    (h : ∀ scene : Scene σ, scene.files.SameSight (build scene).2.files) (desk : Desk σ τ) :
    desk.scene.files.SameSight
      (buildAndRemember resources id style build desk).2.scene.files := by
  rcases buildAndRemember_scene resources id style build desk with hscene | ⟨notes, hscene⟩
  · rw [hscene]
    exact .refl _
  · rw [hscene]
    exact h (desk.scene.asked id)

theorem perform_sameSight {r : Resolver σ τ} (htidy : r.factory.Tidy) {q : Request}
    (h : ∀ inner, r.Delegates q inner → ∀ s : Scene σ, s.files.SameSight (inner s).2.files)
    (desk : Desk σ τ) : desk.scene.files.SameSight (r.perform q desk).2.scene.files := by
  have hplan : ∀ plan, r.plan? q = some plan →
      ∀ scene : Scene σ, scene.files.SameSight (r.carryOut plan scene).2.files := by
    intro plan hplan
    refine carryOut_sameSight htidy fun call inner hdelegate => h inner ⟨call, ?_⟩
    rw [hplan, hdelegate]
  cases q with
  | find resources id style =>
    obtain ⟨notes, hscene⟩ := find_scene resources id style desk
    rw [perform_find, hscene]
    exact .refl _
  | fontFile dir resources id style => exact buildAndRemember_sameSight (hplan _ rfl) desk
  | family dir family resources id style =>
    rw [perform_family, buildEntry_eq]
    exact buildAndRemember_sameSight (hplan _ rfl) desk
  | offers dir offers buffers =>
    rw [perform_offers, createFromOffers_eq]
    exact hplan _ rfl desk.scene

/-! ## Requests that do not stage -/

section

open Work (FilesOnlyIn)

variable {kind : Act σ (Except TypefaceFault τ) → Prop}

theorem oblivious_resourceKey (resources : Resources) (id : ResourceId) (style : Style) :
    (Work.act (resourceKey resources id style) : Work σ τ _).Oblivious := by
  intro desk files
  simp only [Work.act_apply, resourceKey_apply]
  rfl

theorem oblivious_find (resources : Resources) (id : ResourceId) (style : Style) :
    (find resources id style : Work σ τ (Option τ)).Oblivious := by
  unfold find
  refine .bind (oblivious_resourceKey resources id style) fun key => ?_
  cases key with
  | error why => exact .pure none
  | ok key =>
    refine .bind (Work.oblivious_lookUp key) fun found => ?_
    cases found with
    | none => exact .pure none
    | some typeface => exact .bind (Work.oblivious_note _) fun _ => .pure (some typeface)

theorem oblivious_remember (key : ResourceKey) (typeface : τ) :
    (remember key typeface : Work σ τ Unit).Oblivious :=
  .bind (Work.oblivious_note _) fun _ => Work.oblivious_store key typeface

theorem filesOnlyIn_carryOut (r : Resolver σ τ) {plan : Plan σ τ}
    (hstage : ∀ dir source, plan ≠ .stage dir source)
    (hdelegate : ∀ call inner, plan = .delegate call inner → kind inner) :
    FilesOnlyIn kind (Work.act (r.carryOut plan)) := by
  cases plan with
  | fail why => exact .own fun _ _ => rfl
  | delegate call inner =>
    rw [carryOut, Work.act_bind]
    refine .bind (.own (Work.oblivious_called call)) fun _ => ?_
    rw [Work.act_bind]
    exact .bind (.call (hdelegate call inner rfl)) fun made => .own fun _ _ => rfl
  | stage dir source => exact absurd rfl (hstage dir source)

theorem filesOnlyIn_buildAndRemember (resources : Resources) (id : ResourceId) (style : Style)
    {build : Act σ (Except (Halt TypefaceFault) τ)} (h : FilesOnlyIn kind (Work.act build)) :
    FilesOnlyIn kind (buildAndRemember resources id style build) := by
  unfold buildAndRemember
  refine .bind (.own (oblivious_resourceKey resources id style)) fun key => ?_
  cases key with
  | error why => exact .own (.pure _)
  | ok key =>
    refine .bind h fun made => ?_
    cases made with
    | error why => exact .own (.pure _)
    | ok typeface => exact .bind (.own (oblivious_remember key typeface)) fun _ => .own (.pure _)

theorem stages_of_plan {r : Resolver σ τ} {q : Request} {dir : Path} {source : Source}
    (h : r.plan? q = some (.stage dir source)) : r.Stages q := by
  match q with
  | .fontFile .. => trivial
  | .family _ (.provider query) _ _ style =>
    cases hprovider : r.provider <;> simp [plan?, entryPlan, hprovider] at h
  | .family _ (.files fonts) _ _ style =>
    cases hstrategy : r.strategy with
    | direct => simp [plan?, entryPlan, hstrategy] at h
    | staged => exact hstrategy
  | .offers _ offers buffers =>
    cases hstrategy : r.strategy with
    | direct =>
      simp only [plan?, offersPlan, hstrategy] at h
      split at h <;> simp at h
    | staged => exact hstrategy

theorem filesOnlyIn_perform {r : Resolver σ τ} {q : Request} (h : ¬ r.Stages q) :
    FilesOnlyIn (r.Delegates q) (r.perform q) := by
  have hplan : ∀ plan, r.plan? q = some plan →
      FilesOnlyIn (r.Delegates q) (Work.act (r.carryOut plan)) := by
    intro plan hplan
    refine r.filesOnlyIn_carryOut ?_ ?_
    · rintro dir source rfl
      exact h (stages_of_plan hplan)
    · rintro call inner rfl
      exact ⟨call, hplan⟩
  cases q with
  | find resources id style =>
    exact .bind (.own (oblivious_find resources id style)) fun found =>
      .own (.pure (Reply.found found))
  | fontFile dir resources id style => exact absurd trivial h
  | family dir family resources id style =>
    refine .bind ?_ fun made => .own (.pure (Reply.built made))
    rw [createFromFamily, buildEntry_eq]
    exact filesOnlyIn_buildAndRemember resources id style (hplan _ rfl)
  | offers dir offers buffers =>
    refine .bind ?_ fun made => .own (.pure (Reply.built made))
    rw [createFromOffers_eq]
    exact hplan _ rfl

end

/-! ## What the factory is handed -/

theorem buildAndRemember_congr (resources : Resources) {id : ResourceId} (style : Style)
    {build build' : Act σ (Except (Halt TypefaceFault) τ)} {desk : Desk σ τ}
    (h : build (desk.scene.asked id) = build' (desk.scene.asked id)) :
    buildAndRemember resources id style build desk =
      buildAndRemember resources id style build' desk := by
  simp only [buildAndRemember, Act.bind_apply, Work.act_apply, resourceKey_apply]
  cases resources.packageName id with
  | error why => rfl
  | ok package => simp only [Act.bind_apply, Work.act_apply, h]

theorem carryOut_withFile {r : Resolver σ τ} {fromFile : Path → Act σ (Except TypefaceFault τ)}
    {plan : Plan σ τ} {scene : Scene σ}
    (h : ∀ dir source, plan = .stage dir source → ∀ p s bytes,
      scene.files.openExisting p = .error .notFound → source.bytes? = some bytes →
      s.files.read p = .ok bytes → fromFile p s = r.factory.fromFile p s) :
    (r.withFile fromFile).carryOut plan scene = r.carryOut plan scene := by
  cases plan with
  | fail why => rfl
  | delegate call inner => rfl
  | stage dir source =>
    -- Only the way a file is constructed differs, and it is reached in the last case only.
    change r.buildFrom dir (source.fill r.stager ·) ((r.withFile fromFile).factory.construct source)
      scene = r.buildFrom dir (source.fill r.stager ·) (r.factory.construct source) scene
    cases hacquire : (r.stager.acquire dir scene).1 with
    | error why =>
      obtain ⟨notes, heq⟩ := buildFrom_of_refused source hacquire
      rw [heq, heq]
    | ok staged =>
      cases houtcome : source.outcome r.stager staged.path with
      | error why =>
        obtain ⟨place, bytes, mid, -, heq⟩ := buildFrom_of_unfilled hacquire houtcome
        rw [heq, heq]
      | ok n =>
        obtain ⟨place, bytes, mid, hmid, hall, heq⟩ := buildFrom_of_filled hacquire houtcome
        have hbuild : (r.withFile fromFile).factory.build staged.path mid =
            r.factory.build staged.path mid :=
          h dir source rfl staged.path _ bytes hmid.absent hall hmid.read
        have hconstruct : (r.withFile fromFile).factory.construct source staged mid =
            r.factory.construct source staged mid := by
          simp only [Factory.construct, Act.bind_apply, hbuild]
          rfl
        rw [heq, heq, hconstruct]

theorem handsOnly_perform (r : Resolver σ τ) (q : Request) (desk : Desk σ τ) :
    r.HandsOnly q desk fun p s =>
      desk.scene.files.openExisting p = .error .notFound ∧
        ∃ dir source bytes, r.plan? q = some (.stage dir source) ∧ source.bytes? = some bytes ∧
          s.files.read p = .ok bytes := by
  intro fromFile hagree
  have hplan : ∀ plan, r.plan? q = some plan → ∀ scene : Scene σ,
      scene.files = desk.scene.files →
      (r.withFile fromFile).carryOut plan scene = r.carryOut plan scene := by
    intro plan hplan scene hfiles
    refine carryOut_withFile fun dir source hstage p s bytes habsent hall hread => ?_
    refine hagree p s ⟨?_, dir, source, bytes, ?_, hall, hread⟩
    · rw [← hfiles, habsent]
    · rw [hplan, hstage]
  cases q with
  | find resources id style => rfl
  | fontFile dir resources id style =>
    have hmade := buildAndRemember_congr resources style
      (hplan _ rfl (desk.scene.asked id) rfl)
    rw [perform_fontFile, perform_fontFile, buildStaged_eq, buildStaged_eq]
    exact congrArg (fun made => (Reply.built made.1, made.2)) hmade
  | family dir family resources id style =>
    have hmade := buildAndRemember_congr resources style
      (hplan _ rfl (desk.scene.asked id) rfl)
    rw [perform_family, perform_family, buildEntry_eq, buildEntry_eq]
    exact congrArg (fun made => (Reply.built made.1, made.2)) hmade
  | offers dir offers buffers =>
    have hmade := hplan _ rfl desk.scene rfl
    rw [perform_offers, perform_offers, createFromOffers_eq, createFromOffers_eq]
    exact congrArg (fun made => (Reply.built made.1, { desk with scene := made.2 })) hmade

/-- **No leftovers.** After any request the files are as they were, if the factory touches nothing
but the file that it is handed, and the collaborator that a request is left to, if there is one,
touches nothing. A request that does not stage has no eye for files itself. A path that is handed
over was free before the request, and its file holds all bytes of the source. -/
theorem leaves_no_file (r : Resolver σ τ) (q : Request) (desk : Desk σ τ) :
    (r.factory.Tidy →
      (∀ inner, r.Delegates q inner → ∀ s : Scene σ, s.files.SameSight (inner s).2.files) →
      desk.scene.files.SameSight (r.perform q desk).2.scene.files) ∧
    (¬ r.Stages q → (r.perform q).FilesOnlyIn (r.Delegates q)) ∧
    r.HandsOnly q desk fun p s =>
      desk.scene.files.openExisting p = .error .notFound ∧
        ∃ dir source bytes, r.plan? q = some (.stage dir source) ∧ source.bytes? = some bytes ∧
          s.files.read p = .ok bytes :=
  ⟨fun htidy h => perform_sameSight htidy h desk, filesOnlyIn_perform, handsOnly_perform r q desk⟩

end Resolver

/-! ## Factories that touch nothing -/

theorem Store.sameElsewhere_self {s : Store} {place : Place} {bytes : Bytes}
    (h : s.sight place = some (.file bytes)) : s.SameElsewhere place s :=
  ⟨fun _ _ => rfl, by simp [h]⟩

theorem Factory.readFontFile_files (p : Path) (s : Scene σ) :
    (readFontFile p s).2.files = s.files := by
  simp only [readFontFile, Act.bind_apply, Act.files_apply]
  cases s.files.read p <;> rfl

theorem Handle.wrap_files (build : Act Nat (Except TypefaceFault τ)) (s : Scene Nat) :
    (wrap build s).2.files = (build s).2.files := by
  simp only [wrap, Act.bind_apply]
  cases (build s).1 <;> rfl

theorem Factory.tidy_fontData : (fontData : Factory σ FontData).Tidy := by
  intro p place bytes s _ hsight
  have hfiles : (fontData.fromFile p s).2.files = s.files := readFontFile_files p s
  rw [hfiles]
  exact Store.sameElsewhere_self hsight

theorem Factory.Tidy.handing {f : Factory Nat τ} (h : f.Tidy) : f.handing.Tidy := by
  intro p place bytes s hp hsight
  have hfiles : (f.handing.fromFile p s).2.files = (f.fromFile p s).2.files :=
    Handle.wrap_files (f.fromFile p) s
  rw [hfiles]
  exact h p place bytes s hp hsight

namespace Resolver

/-- A copy that breaks off leaves nothing, and without staging nobody looks at the files. -/
theorem leaves_no_file_of_broken_stream :
    let broken : Request :=
      .fontFile ⟨"/"⟩ (bundle "a" [.data (bareFont 3), .fails "disk on fire"]) 5 .bold
    let family : Request :=
      .family ⟨"/"⟩ (.files [⟨⟨700, false⟩, 9, 0, none⟩]) (bundle "a" [.data (bareFont 1)]) 5 .bold
    let direct : Resolver Nat (Handle FontData) := { stagedFonts with strategy := .direct }
    stagedFonts.factory.Tidy ∧
      (∀ inner, stagedFonts.Delegates broken inner →
        ∀ s : Scene Nat, s.files.SameSight (inner s).2.files) ∧
      (freshDesk 2).scene.files.SameSight
        (stagedFonts.perform broken (freshDesk 2)).2.scene.files ∧
      ¬ direct.Stages family ∧ (direct.perform family).FilesOnlyIn (direct.Delegates family) := by
  have hnone : ∀ inner, stagedFonts.Delegates (.fontFile ⟨"/"⟩
      (bundle "a" [.data (bareFont 3), .fails "disk on fire"]) 5 .bold) inner →
      ∀ s : Scene Nat, s.files.SameSight (inner s).2.files := by
    rintro inner ⟨call, hplan⟩
    cases hplan
  refine ⟨Factory.tidy_fontData.handing, hnone, ?_, nofun, ?_⟩
  · exact (leaves_no_file stagedFonts _ (freshDesk 2)).1 Factory.tidy_fontData.handing hnone
  · exact (leaves_no_file _ _ (freshDesk 2)).2.1 nofun

end Resolver

end Typecase
