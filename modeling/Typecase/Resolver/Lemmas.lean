import Typecase.Cache.Lemmas
import Typecase.Resolver.Request
import Typecase.Scene.Lemmas

/-!
# What each request does to a desk

One lemma for each way that a request can go. The cache changes in two of them only: a look-up with
a known package, and a successful build.
-/

namespace Typecase

variable {σ τ : Type}

namespace Work

@[simp] theorem act_apply {α : Type} (a : Act σ α) (desk : Desk σ τ) :
    (act a : Work σ τ α) desk = ((a desk.scene).1, { desk with scene := (a desk.scene).2 }) := rfl

@[simp] theorem lookUp_apply (key : ResourceKey) (desk : Desk σ τ) :
    (lookUp key : Work σ τ (Option τ)) desk =
      ((desk.cache.get key).1, { desk with cache := (desk.cache.get key).2 }) := rfl

theorem store_eq (key : ResourceKey) (typeface : τ) (desk : Desk σ τ) :
    ∃ notes, store key typeface desk =
      ((), ⟨(desk.cache.insert key typeface).2, { desk.scene with notes }⟩) := by
  simp only [store, Act.bind_apply, Act.get_apply, Act.modify_apply]
  cases (desk.cache.insert key typeface).1 with
  | none => exact ⟨desk.scene.notes, rfl⟩
  | some old => exact ⟨_, rfl⟩

end Work

/-- The scene after the package of a resource was asked for. -/
def Scene.asked (s : Scene σ) (id : ResourceId) : Scene σ :=
  { s with calls := s.calls ++ [.package id] }

/-- The key of a resource, if its package is known. -/
def Resources.key? (resources : Resources) (id : ResourceId) (style : Style) : Option ResourceKey :=
  (resources.packageName id).toOption.map fun package => ⟨package, id, style⟩

namespace Resolver

/-! ## Keys -/

theorem resourceKey_apply (resources : Resources) (id : ResourceId) (style : Style) (s : Scene σ) :
    resourceKey resources id style s =
      (match resources.packageName id with
        | .error why => .error (.ofResource why)
        | .ok package => .ok ⟨package, id, style⟩, s.asked id) := by
  simp only [resourceKey, Resources.askPackage, Act.bind_apply, Act.called_apply, Act.pure_apply]
  cases resources.packageName id <;> rfl

/-! ## Finding -/

theorem find_of_unknown {resources : Resources} {id : ResourceId} {why : ResourceFault}
    (h : resources.packageName id = .error why) (style : Style) (desk : Desk σ τ) :
    find resources id style desk = (none, { desk with scene := desk.scene.asked id }) := by
  simp only [find, Act.bind_apply, Work.act_apply, resourceKey_apply, h, Act.pure_apply]

theorem find_of_known {resources : Resources} {id : ResourceId} {package : String}
    (h : resources.packageName id = .ok package) (style : Style) (desk : Desk σ τ) :
    ∃ notes, find resources id style desk =
      ((desk.cache.get ⟨package, id, style⟩).1,
        ⟨(desk.cache.get ⟨package, id, style⟩).2, { desk.scene.asked id with notes }⟩) := by
  simp only [find, Act.bind_apply, Work.act_apply, resourceKey_apply, h, Work.lookUp_apply]
  cases (desk.cache.get ⟨package, id, style⟩).1 with
  | none => exact ⟨desk.scene.notes, rfl⟩
  | some typeface => exact ⟨_, rfl⟩

theorem find_scene (resources : Resources) (id : ResourceId) (style : Style) (desk : Desk σ τ) :
    ∃ notes, (find resources id style desk).2.scene = { desk.scene.asked id with notes } := by
  cases hpackage : resources.packageName id with
  | error why =>
    rw [find_of_unknown hpackage]
    exact ⟨desk.scene.notes, rfl⟩
  | ok package =>
    obtain ⟨notes, hfind⟩ := find_of_known hpackage style desk
    rw [hfind]
    exact ⟨notes, rfl⟩

/-! ## Building and remembering -/

theorem remember_eq (key : ResourceKey) (typeface : τ) (desk : Desk σ τ) :
    ∃ notes, remember key typeface desk =
      ((), ⟨(desk.cache.insert key typeface).2, { desk.scene with notes }⟩) := by
  simp only [remember, Act.bind_apply, Work.act_apply, Act.note_apply]
  exact Work.store_eq key typeface _

variable {resources : Resources} {id : ResourceId} {style : Style}
variable {build : Act σ (Except (Halt TypefaceFault) τ)} {desk : Desk σ τ}

theorem buildAndRemember_of_unknown {why : ResourceFault}
    (h : resources.packageName id = .error why) :
    buildAndRemember resources id style build desk =
      (.error (.fault (.ofResource why)), { desk with scene := desk.scene.asked id }) := by
  simp only [buildAndRemember, Act.bind_apply, Work.act_apply, resourceKey_apply, h,
    Act.pure_apply]

theorem buildAndRemember_of_fault {package : String} {why : Halt TypefaceFault}
    (h : resources.packageName id = .ok package)
    (hbuild : (build (desk.scene.asked id)).1 = .error why) :
    buildAndRemember resources id style build desk =
      (.error why, { desk with scene := (build (desk.scene.asked id)).2 }) := by
  simp only [buildAndRemember, Act.bind_apply, Work.act_apply, resourceKey_apply, h, hbuild,
    Act.pure_apply]

theorem buildAndRemember_of_built (style : Style) {package : String} {typeface : τ}
    (h : resources.packageName id = .ok package)
    (hbuild : (build (desk.scene.asked id)).1 = .ok typeface) :
    ∃ notes, buildAndRemember resources id style build desk =
      (.ok typeface, ⟨(desk.cache.insert ⟨package, id, style⟩ typeface).2,
        { (build (desk.scene.asked id)).2 with notes }⟩) := by
  simp only [buildAndRemember, Act.bind_apply, Work.act_apply, resourceKey_apply, h, hbuild]
  obtain ⟨notes, hnotes⟩ := remember_eq (⟨package, id, style⟩ : ResourceKey) typeface
    (⟨desk.cache, (build (desk.scene.asked id)).2⟩ : Desk σ τ)
  exact ⟨notes, by rw [hnotes]; rfl⟩

/-- Remembering adds notes to the scene that the build leaves, and nothing else. -/
theorem buildAndRemember_scene (resources : Resources) (id : ResourceId) (style : Style)
    (build : Act σ (Except (Halt TypefaceFault) τ)) (desk : Desk σ τ) :
    let after := (buildAndRemember resources id style build desk).2.scene
    after = desk.scene.asked id ∨
      ∃ notes, after = { (build (desk.scene.asked id)).2 with notes } := by
  cases hpackage : resources.packageName id with
  | error why =>
    rw [buildAndRemember_of_unknown hpackage]
    exact .inl rfl
  | ok package =>
    refine .inr ?_
    cases hbuild : (build (desk.scene.asked id)).1 with
    | error why =>
      rw [buildAndRemember_of_fault hpackage hbuild]
      exact ⟨(build (desk.scene.asked id)).2.notes, rfl⟩
    | ok typeface =>
      obtain ⟨notes, hmade⟩ := buildAndRemember_of_built style hpackage hbuild
      rw [hmade]
      exact ⟨notes, rfl⟩

/-! ## Requests -/

theorem perform_find (r : Resolver σ τ) (resources : Resources) (id : ResourceId) (style : Style)
    (desk : Desk σ τ) :
    r.perform (.find resources id style) desk =
      (.found (find resources id style desk).1, (find resources id style desk).2) := rfl

theorem perform_fontFile (r : Resolver σ τ) (dir : Path) (resources : Resources) (id : ResourceId)
    (style : Style) (desk : Desk σ τ) :
    r.perform (.fontFile dir resources id style) desk =
      let made := buildAndRemember resources id style (r.buildStaged dir resources id) desk
      (.built made.1, made.2) := rfl

theorem perform_family (r : Resolver σ τ) (dir : Path) (family : Family) (resources : Resources)
    (id : ResourceId) (style : Style) (desk : Desk σ τ) :
    r.perform (.family dir family resources id style) desk =
      let made := buildAndRemember resources id style (r.buildEntry dir family resources style) desk
      (.built made.1, made.2) := rfl

theorem perform_offers (r : Resolver σ τ) (dir : Path) (offers : List FontOffer)
    (buffers : Buffers) (desk : Desk σ τ) :
    r.perform (.offers dir offers buffers) desk =
      let made := r.createFromOffers dir offers buffers desk.scene
      (.built made.1, { desk with scene := made.2 }) := rfl

theorem performAll_cons (r : Resolver σ τ) (q : Request) (qs : List Request) (desk : Desk σ τ) :
    r.performAll (q :: qs) desk =
      let first := r.perform q desk
      let rest := r.performAll qs first.2
      (first.1 :: rest.1, rest.2) := by
  simp only [performAll, List.mapM_cons, Act.bind_apply, Act.pure_apply]

end Resolver

end Typecase
