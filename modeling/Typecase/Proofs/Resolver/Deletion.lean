import Mathlib.Logic.Equiv.Basic
import Typecase.Proofs.Resolver.Lockstep

/-!
# Failures are invisible

A build that fails, or one from offers, leaves the cache as it was. If the collaborators answer by
what they are given, a run without such builds goes as before, up to the serials of new handles.
-/

namespace Typecase

variable {σ τ : Type}

/-! ## Collaborators that answer by what they are given -/

/-- The answer depends on what the files show only: not on what was noted, called or remembered. -/
def Act.Functional {α : Type} (a : Act σ α) : Prop :=
  ∀ s t : Scene σ, s.files.SameSight t.files → (a s).1 = (a t).1

namespace Resolver

/-- The collaborators answer by what they are given, and touch no file but the one that is handed
over. -/
structure Functional (r : Resolver σ τ) : Prop extends r.Careful where
  file : ∀ p, (r.factory.fromFile p).Functional
  inner : ∀ q inner, r.Delegates q inner → inner.Functional

/-- The collaborators remember nothing. -/
structure Quiet (r : Resolver σ τ) : Prop where
  file : ∀ (p : Path) (s : Scene σ), (r.factory.fromFile p s).2.outside = s.outside
  inner : ∀ q inner, r.Delegates q inner → ∀ s : Scene σ, (inner s).2.outside = s.outside

end Resolver

/-! ## Equal results -/

def Bond.equal : Bond σ τ := fun _ _ R => R = Eq

theorem Act.Functional.steady {a : Act σ (Except TypefaceFault τ)} (h : a.Functional) :
    a.Steady Bond.equal := by
  refine ⟨?_, fun _ _ _ hI => hI⟩
  rintro s t R hfiles rfl
  refine ⟨Eq, fun _ _ h => h, ?_, rfl⟩
  rw [h s t hfiles]
  cases (a t).1 with
  | error why => exact .error why
  | ok typeface => exact .ok rfl

theorem Resolver.Functional.steady {r : Resolver σ τ} (h : r.Functional) : r.Steady Bond.equal :=
  ⟨h.toCareful, fun p => (h.file p).steady, fun q inner hq => (h.inner q inner hq).steady⟩

/-! ## New handles -/

def Handle.rename (π : Nat → Nat) (h : Handle τ) : Handle τ := ⟨π h.serial, h.typeface⟩

section

variable {build : Act Nat (Except TypefaceFault τ)} {s : Scene Nat}

theorem Handle.wrap_of_error {why : TypefaceFault} (h : (build s).1 = .error why) :
    wrap build s = (.error why, (build s).2) := by
  simp only [wrap, Act.bind_apply, h, Act.pure_apply]

theorem Handle.wrap_of_ok {typeface : τ} (h : (build s).1 = .ok typeface) :
    wrap build s = (.ok ⟨(build s).2.outside, typeface⟩,
      { (build s).2 with outside := (build s).2.outside + 1 }) := by
  simp only [wrap, make, Act.bind_apply, h, Act.get_apply, Act.modify_apply, Act.pure_apply]

end

/-- Pairs of handles differ by a renaming of serials that keeps those below `old`. -/
def Bond.renamed (old : Nat) : Bond Nat (Handle τ) := fun s t R =>
  ∃ π : Equiv.Perm Nat, old ≤ s ∧ old ≤ t ∧ (∀ n < old, π n = n) ∧
    ∀ h h', R h h' → h' = h.rename π ∧ h.serial < s ∧ h'.serial < t

theorem exists_renaming (π : Equiv.Perm Nat) (s t : Nat) :
    ∃ π' : Equiv.Perm Nat, π' s = t ∧ ∀ n, n ≠ s → π n ≠ t → π' n = π n := by
  refine ⟨π.trans (Equiv.swap (π s) t), ?_, ?_⟩
  · rw [Equiv.trans_apply, Equiv.swap_apply_left]
  · intro n hs ht
    rw [Equiv.trans_apply]
    exact Equiv.swap_apply_of_ne_of_ne (fun h => hs (π.injective h)) ht

theorem Bond.renamed.add {old s t : Nat} {R : Handle τ → Handle τ → Prop}
    (h : renamed old s t R) (typeface : τ) :
    renamed old (s + 1) (t + 1)
      fun x y => R x y ∨ x = ⟨s, typeface⟩ ∧ y = ⟨t, typeface⟩ := by
  obtain ⟨π, hs, ht, hold, hpairs⟩ := h
  obtain ⟨π', hnew, hkeep⟩ := exists_renaming π s t
  refine ⟨π', by omega, by omega, ?_, ?_⟩
  · intro n hn
    have hπ := hold n hn
    rw [hkeep n (by omega) (by omega), hπ]
  · rintro x y (hxy | ⟨rfl, rfl⟩)
    -- An older pair has neither of the two new serials, so its name is kept.
    · obtain ⟨rfl, hx, hy⟩ := hpairs x y hxy
      have hkept : π' x.serial = π x.serial := hkeep x.serial (Nat.ne_of_lt hx) (Nat.ne_of_lt hy)
      refine ⟨?_, Nat.lt_succ_of_lt hx, Nat.lt_succ_of_lt hy⟩
      rw [Handle.rename, Handle.rename, hkept]
    · refine ⟨?_, Nat.lt_succ_self s, Nat.lt_succ_self t⟩
      rw [Handle.rename, hnew]

theorem Bond.renamed.skip {old s t : Nat} {R : Handle τ → Handle τ → Prop}
    (h : renamed old s t R) : renamed old (s + 1) t R := by
  obtain ⟨π, hs, ht, hold, hpairs⟩ := h
  refine ⟨π, Nat.le_succ_of_le hs, ht, hold, fun x y hxy => ?_⟩
  obtain ⟨hy, hx, hlt⟩ := hpairs x y hxy
  exact ⟨hy, Nat.lt_succ_of_lt hx, hlt⟩

theorem Handle.wrap_steady {build : Act Nat (Except TypefaceFault τ)} (h : build.Functional)
    (hquiet : ∀ s : Scene Nat, (build s).2.outside = s.outside) (old : Nat) :
    (wrap build).Steady (Bond.renamed old) := by
  constructor
  · intro s t R hfiles hI
    have hsame := h s t hfiles
    cases hbuild : (build s).1 with
    | error why =>
      rw [wrap_of_error hbuild, wrap_of_error (hsame.symm.trans hbuild), hquiet, hquiet]
      exact ⟨R, fun _ _ h => h, .error why, hI⟩
    | ok typeface =>
      rw [wrap_of_ok hbuild, wrap_of_ok (hsame.symm.trans hbuild), hquiet, hquiet]
      exact ⟨_, fun _ _ h => .inl h, .ok (.inr ⟨rfl, rfl⟩), hI.add typeface⟩
  · intro s other R hI
    cases hbuild : (build s).1 with
    | error why =>
      rw [wrap_of_error hbuild, hquiet]
      exact hI
    | ok typeface =>
      rw [wrap_of_ok hbuild, hquiet]
      exact hI.skip

/-! ## Resolvers that hand out handles -/

def Plan.handing : Plan Nat τ → Plan Nat (Handle τ)
  | .fail why => .fail why
  | .delegate call inner => .delegate call (Handle.wrap inner)
  | .stage dir source => .stage dir source

namespace Resolver

def handing (r : Resolver Nat τ) : Resolver Nat (Handle τ) where
  factory := r.factory.handing
  strategy := r.strategy
  stager := r.stager
  provider := r.provider.map Provider.handing

variable {r : Resolver Nat τ}

theorem plan?_handing (r : Resolver Nat τ) (q : Request) :
    r.handing.plan? q = (r.plan? q).map Plan.handing := by
  match q with
  | .find .. => rfl
  | .fontFile .. => rfl
  | .family _ (.provider query) _ _ style =>
    simp only [plan?, entryPlan, handing]
    cases r.provider <;> rfl
  | .family _ (.files fonts) resources _ style =>
    simp only [plan?, entryPlan, handing]
    cases r.strategy with
    | direct => rfl
    | staged => cases bestMatch FontFile.cut style fonts <;> rfl
  | .offers _ offers buffers =>
    simp only [plan?, offersPlan, handing]
    split
    · rfl
    cases r.strategy with
    | direct => rfl
    | staged =>
      dsimp only
      cases bestMatch FontOffer.cut .normal (FontOffer.usable offers buffers) with
      | none => rfl
      | some best =>
        dsimp only
        cases buffers.lookup best.uri <;> rfl

theorem delegates_handing {q : Request} {inner : Act Nat (Except TypefaceFault (Handle τ))}
    (h : r.handing.Delegates q inner) :
    ∃ build, r.Delegates q build ∧ inner = Handle.wrap build := by
  obtain ⟨call, hplan⟩ := h
  rw [plan?_handing] at hplan
  cases hr : r.plan? q with
  | none => simp [hr] at hplan
  | some plan =>
    rw [hr, Option.map_some, Option.some.injEq] at hplan
    cases plan with
    | fail why => cases hplan
    | stage dir source => cases hplan
    | delegate call build =>
      cases hplan
      exact ⟨build, ⟨call, hr⟩, rfl⟩

theorem Functional.steady_handing (h : r.Functional) (hquiet : r.Quiet) (old : Nat) :
    r.handing.Steady (Bond.renamed old) := by
  refine ⟨⟨h.tidy.handing, ?_⟩, ?_, ?_⟩
  · intro q inner hq s
    obtain ⟨build, hbuild, rfl⟩ := delegates_handing hq
    rw [Handle.wrap_files]
    exact h.leaves q build hbuild s
  · intro p
    exact Handle.wrap_steady (h.file p) (hquiet.file p) old
  · intro q inner hq
    obtain ⟨build, hbuild, rfl⟩ := delegates_handing hq
    exact Handle.wrap_steady (h.inner q build hbuild) (hquiet.inner q build hbuild) old

theorem Functional.events_lasting {r : Resolver σ τ} (h : r.Functional) (requests : List Request)
    (desk : Desk σ τ) :
    r.events ((r.lasting requests desk).map Event.request) desk = r.lasting requests desk ∧
      (r.performAll ((r.lasting requests desk).map Event.request) desk).2.cache =
        (r.performAll requests desk).2.cache := by
  have hlinked : desk.Linked Bond.equal Eq desk :=
    ⟨Cache.agree_self fun _ _ => rfl, .refl _, rfl⟩
  obtain ⟨R', hR', hmap⟩ := run_lasting_map h.steady requests hlinked
  have hid : ∀ x y, R' x y → y = id x := by
    intro x y hxy
    rw [hR'] at hxy
    exact hxy.symm
  obtain ⟨hevents, hcache⟩ := hmap id hid
  have hsame : (r.lasting requests desk).map (Event.map id) = r.lasting requests desk :=
    (List.map_congr_left fun e _ => e.map_id).trans (List.map_id _)
  rw [hsame] at hevents
  rw [Cache.map_id] at hcache
  exact ⟨hevents, hcache⟩

theorem Functional.events_lasting_handing (h : r.Functional) (hquiet : r.Quiet)
    (requests : List Request) (desk : Desk Nat (Handle τ))
    (hold : ∀ e ∈ desk.cache.entries, e.2.serial < desk.scene.outside) :
    let lasting := r.handing.lasting requests desk
    ∃ π : Equiv.Perm Nat, (∀ n < desk.scene.outside, π n = n) ∧
      r.handing.events (lasting.map Event.request) desk =
        lasting.map (Event.map (Handle.rename π)) ∧
      (r.handing.performAll (lasting.map Event.request) desk).2.cache =
        (r.handing.performAll requests desk).2.cache.map (Handle.rename π) := by
  have hlinked : desk.Linked (Bond.renamed desk.scene.outside)
      (fun x y => y = x ∧ x.serial < desk.scene.outside) desk := by
    refine ⟨Cache.agree_self fun e he => ⟨rfl, hold e he⟩, .refl _, .refl _, le_rfl, le_rfl,
      fun _ _ => rfl, ?_⟩
    rintro x y ⟨rfl, hx⟩
    exact ⟨rfl, hx, hx⟩
  obtain ⟨R', ⟨π, -, -, hπ, hpairs⟩, hmap⟩ :=
    run_lasting_map (h.steady_handing hquiet _) requests hlinked
  exact ⟨π, hπ, hmap (Handle.rename π) fun x y hxy => (hpairs x y hxy).1⟩

/-- **Failures are invisible.** They leave the cache as it was, and so do builds from offers. A run
that leaves them out gives the same replies and ends with the same cache: exactly so if typefaces
are functions of what the collaborators are given, and up to the serials of new handles if each
build hands out a new handle. -/
theorem failures_are_invisible :
    (∀ (r : Resolver σ τ) (q : Request) (desk : Desk σ τ),
      Event.passing ⟨q, (r.perform q desk).1⟩ = true →
      (r.perform q desk).2.cache = desk.cache) ∧
    (∀ r : Resolver σ τ, r.Functional → ∀ (requests : List Request) (desk : Desk σ τ),
      let lasting := r.lasting requests desk
      r.events (lasting.map Event.request) desk = lasting ∧
        (r.performAll (lasting.map Event.request) desk).2.cache =
          (r.performAll requests desk).2.cache) ∧
    (∀ r : Resolver Nat τ, r.Functional → r.Quiet →
      ∀ (requests : List Request) (desk : Desk Nat (Handle τ)),
      (∀ e ∈ desk.cache.entries, e.2.serial < desk.scene.outside) →
      let lasting := r.handing.lasting requests desk
      ∃ π : Equiv.Perm Nat, (∀ n < desk.scene.outside, π n = n) ∧
        r.handing.events (lasting.map Event.request) desk =
          lasting.map (Event.map (Handle.rename π)) ∧
        (r.handing.performAll (lasting.map Event.request) desk).2.cache =
          (r.handing.performAll requests desk).2.cache.map (Handle.rename π)) :=
  ⟨cache_of_passing, fun _ h => h.events_lasting,
    fun _ h hquiet => h.events_lasting_handing hquiet⟩

/-! ## A run -/

def plainFonts : Resolver Nat FontData where
  factory := Factory.fontData
  strategy := .staged
  stager := { identity := ⟨7, 3⟩ }

theorem not_delegates_plainFonts (q : Request) (inner : Act Nat (Except TypefaceFault FontData)) :
    ¬ plainFonts.Delegates q inner := by
  rintro ⟨call, hplan⟩
  match q with
  | .find .. => cases hplan
  | .fontFile .. => cases hplan
  | .family _ (.provider query) .. => cases hplan
  | .family _ (.files fonts) _ _ style =>
    simp only [plan?, entryPlan, plainFonts, Option.some.injEq] at hplan
    split at hplan <;> cases hplan
  | .offers _ offers buffers =>
    simp only [plan?, offersPlan, plainFonts, Option.some.injEq] at hplan
    split at hplan
    · cases hplan
    split at hplan
    · cases hplan
    split at hplan <;> cases hplan

theorem functional_plainFonts : plainFonts.Functional := by
  refine ⟨⟨Factory.tidy_fontData, ?_⟩, ?_, ?_⟩
  · intro q inner hq
    exact absurd hq (not_delegates_plainFonts q inner)
  · intro p s t hfiles
    change (Factory.readFontFile p s).1 = (Factory.readFontFile p t).1
    simp only [Factory.readFontFile, Act.bind_apply, Act.files_apply, hfiles.read p]
    cases s.files.read p <;> rfl
  · intro q inner hq
    exact absurd hq (not_delegates_plainFonts q inner)

theorem quiet_plainFonts : plainFonts.Quiet := by
  constructor
  · intro p s
    change (Factory.readFontFile p s).2.outside = s.outside
    simp only [Factory.readFontFile, Act.bind_apply, Act.files_apply]
    cases s.files.read p <;> rfl
  · intro q inner hq
    exact absurd hq (not_delegates_plainFonts q inner)

/-- Between two builds that last there is one from an offer and one that fails. -/
def lossyRun : List Request := [
  .fontFile ⟨"/"⟩ (bundle "a" [.data (bareFont 1)]) 5 .bold,
  .offers ⟨"/"⟩ [⟨⟨400, false⟩, "u", 0, 0⟩] [("u", bareFont 9)],
  .fontFile ⟨"/"⟩ (bundle "a" [.fails "disk on fire"]) 6 .bold,
  .fontFile ⟨"/"⟩ (bundle "a" [.data (bareFont 2)]) 6 .bold,
  .find (bundle "a" []) 6 .bold]

theorem lossyRun_without_losses :
    plainFonts.Functional ∧ plainFonts.Quiet ∧
      (∀ e ∈ (freshDesk 2).cache.entries, e.2.serial < (freshDesk 2).scene.outside) ∧
      let lasting := plainFonts.handing.lasting lossyRun (freshDesk 2)
      ∃ π : Equiv.Perm Nat, (∀ n < (freshDesk 2).scene.outside, π n = n) ∧
        plainFonts.handing.events (lasting.map Event.request) (freshDesk 2) =
          lasting.map (Event.map (Handle.rename π)) ∧
        (plainFonts.handing.performAll (lasting.map Event.request) (freshDesk 2)).2.cache =
          (plainFonts.handing.performAll lossyRun (freshDesk 2)).2.cache.map (Handle.rename π) := by
  have hnone : ∀ e ∈ (freshDesk 2).cache.entries, e.2.serial < (freshDesk 2).scene.outside := nofun
  refine ⟨functional_plainFonts, quiet_plainFonts, hnone, ?_⟩
  have hrun := @failures_are_invisible Nat FontData
  exact hrun.2.2 plainFonts functional_plainFonts quiet_plainFonts lossyRun (freshDesk 2) hnone

example : (plainFonts.handing.performAll lossyRun (freshDesk 2)).1 = [
    .built (.ok ⟨0, ⟨bareFont 1, 0, 1000⟩⟩),
    .built (.ok ⟨1, ⟨bareFont 9, 0, 1000⟩⟩),
    .built (.error (.fault (.staging (.write ⟨"/.font7-3-0"⟩ (.reported "disk on fire"))))),
    .built (.ok ⟨2, ⟨bareFont 2, 0, 1000⟩⟩),
    .found (some ⟨2, ⟨bareFont 2, 0, 1000⟩⟩)] := by
  decide +kernel

end Resolver

end Typecase
