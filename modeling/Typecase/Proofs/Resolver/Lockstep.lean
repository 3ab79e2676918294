import Typecase.Proofs.Cache.Agree
import Typecase.Proofs.Resolver.Leftovers

/-!
# Two runs side by side

A run and a second run that leaves some of its requests out. The handles of the two runs are paired
as they are built, and `R` holds the pairs so far. What the collaborators remember is bound by `I`,
which may speak about the pairs.
-/

namespace Typecase

variable {σ τ : Type}

/-! ## Results that agree -/

inductive Agreed {ε : Type} (R : τ → τ → Prop) : Except ε τ → Except ε τ → Prop
  | error (why : ε) : Agreed R (.error why) (.error why)
  | ok {x y : τ} (h : R x y) : Agreed R (.ok x) (.ok y)

inductive Reply.Agree (R : τ → τ → Prop) : Reply τ → Reply τ → Prop
  | found {x y : Option τ} (h : Option.Rel R x y) : Reply.Agree R (.found x) (.found y)
  | built {x y : Except (Halt TypefaceFault) τ} (h : Agreed R x y) :
      Reply.Agree R (.built x) (.built y)

def Reply.map (f : τ → τ) : Reply τ → Reply τ
  | .found typeface => .found (typeface.map f)
  | .built outcome => .built (outcome.map f)

def Event.map (f : τ → τ) (e : Event τ) : Event τ := { e with reply := e.reply.map f }

theorem Event.map_id (e : Event τ) : e.map id = e := by
  obtain ⟨request, reply⟩ := e
  match reply with
  | .found typeface => rw [map, Reply.map, Option.map_id_apply]
  | .built (.error why) => rfl
  | .built (.ok typeface) => rfl

def Event.Agree (R : τ → τ → Prop) (e e' : Event τ) : Prop :=
  e'.request = e.request ∧ e.reply.Agree R e'.reply

section

variable {ε ε' : Type} {R R' : τ → τ → Prop}

theorem Agreed.mono {x y : Except ε τ} (h : Agreed R x y) (hR : ∀ a b, R a b → R' a b) :
    Agreed R' x y := by
  cases h with
  | error why => exact .error why
  | ok h => exact .ok (hR _ _ h)

theorem Agreed.mapError {x y : Except ε τ} (h : Agreed R x y) (f : ε → ε') :
    Agreed R (x.mapError f) (y.mapError f) := by
  cases h with
  | error why => exact .error (f why)
  | ok h => exact .ok h

theorem Reply.Agree.mono {x y : Reply τ} (h : x.Agree R y) (hR : ∀ a b, R a b → R' a b) :
    x.Agree R' y := by
  cases h with
  | found h =>
    cases h with
    | none => exact .found .none
    | some h => exact .found (.some (hR _ _ h))
  | built h => exact .built (h.mono hR)

theorem Reply.Agree.eq_map {x y : Reply τ} (h : x.Agree R y) {f : τ → τ}
    (hf : ∀ a b, R a b → b = f a) : y = x.map f := by
  cases h with
  | found h =>
    cases h with
    | none => rfl
    | some h => rw [hf _ _ h, Reply.map, Option.map_some]
  | built h =>
    cases h with
    | error why => rfl
    | ok h => rw [hf _ _ h, Reply.map, Except.map]

theorem Event.Agree.eq_map {e e' : Event τ} (h : e.Agree R e') {f : τ → τ}
    (hf : ∀ a b, R a b → b = f a) : e' = e.map f := by
  obtain ⟨request, reply⟩ := e'
  obtain ⟨rfl, hreply⟩ := h
  rw [Event.map, ← hreply.eq_map hf]

end

/-! ## Steady actions -/

/-- What the collaborators remember in the two runs, and the pairs it is bound to. -/
abbrev Bond (σ τ : Type) := σ → σ → (τ → τ → Prop) → Prop

/-- Done in both runs where the files look the same, the action gives results that agree. Done in
the first run alone, it makes no difference. -/
structure Act.Steady {ε : Type} (I : Bond σ τ) (a : Act σ (Except ε τ)) : Prop where
  together : ∀ (s t : Scene σ) (R : τ → τ → Prop), s.files.SameSight t.files →
    I s.outside t.outside R →
    ∃ R' : τ → τ → Prop, (∀ x y, R x y → R' x y) ∧ Agreed R' (a s).1 (a t).1 ∧
      I (a s).2.outside (a t).2.outside R'
  alone : ∀ (s : Scene σ) (other : σ) (R : τ → τ → Prop), I s.outside other R →
    I (a s).2.outside other R

theorem Act.Steady.of_record {ε ε' : Type} {I : Bond σ τ} {a : Act σ (Except ε τ)}
    {a' : Act σ (Except ε' τ)} (h : a.Steady I) (f : ε → ε')
    (ha : ∀ s : Scene σ, ∃ calls notes, a' s =
      ((a { s with calls }).1.mapError f, { (a { s with calls }).2 with notes })) :
    a'.Steady I := by
  constructor
  · intro s t R hfiles hI
    obtain ⟨calls, notes, hs⟩ := ha s
    obtain ⟨calls', notes', ht⟩ := ha t
    obtain ⟨R', hR, hagreed, hI'⟩ :=
      h.together { s with calls } { t with calls := calls' } R hfiles hI
    rw [hs, ht]
    exact ⟨R', hR, hagreed.mapError f, hI'⟩
  · intro s other R hI
    obtain ⟨calls, notes, hs⟩ := ha s
    rw [hs]
    exact h.alone { s with calls } other R hI

theorem Factory.construct_steady {I : Bond σ τ} {f : Factory σ τ}
    (hfile : ∀ p, (f.fromFile p).Steady I) (source : Source) (staged : TempFile) :
    (f.construct source staged).Steady I := by
  refine (hfile staged.path).of_record .ofConstruction fun s => ?_
  obtain ⟨notes, hmade⟩ := f.construct_eq source staged s
  exact ⟨_, notes, hmade⟩

structure Resolver.Steady (I : Bond σ τ) (r : Resolver σ τ) : Prop extends r.Careful where
  file : ∀ p, (r.factory.fromFile p).Steady I
  inner : ∀ q inner, r.Delegates q inner → inner.Steady I

namespace Resolver

variable {I : Bond σ τ} {r : Resolver σ τ}

theorem stage_steady (hfile : ∀ p, (r.factory.fromFile p).Steady I) (dir : Path) (source : Source) :
    (r.stage dir source).Steady I := by
  constructor
  · intro s t R hfiles hI
    -- The files look the same, so both runs take the same name, and the cases of one are those of
    -- the other.
    have hsame := r.stager.acquire_sameSight dir hfiles
    unfold stage
    cases hacquire : (r.stager.acquire dir s).1 with
    | error why =>
      obtain ⟨notes, heq⟩ := buildFrom_of_refused source hacquire
      obtain ⟨notes', heq'⟩ := buildFrom_of_refused source (hsame.symm.trans hacquire)
      rw [heq, heq']
      exact ⟨R, fun _ _ h => h, .error _, hI⟩
    | ok staged =>
      cases houtcome : source.outcome r.stager staged.path with
      | error why =>
        obtain ⟨place, bytes, mid, hmid, heq⟩ := buildFrom_of_unfilled hacquire houtcome
        obtain ⟨place', bytes', mid', hmid', heq'⟩ :=
          buildFrom_of_unfilled (hsame.symm.trans hacquire) houtcome
        rw [heq, heq', TempFile.outside_release, TempFile.outside_release, hmid.outside,
          hmid'.outside]
        exact ⟨R, fun _ _ h => h, .error _, hI⟩
      | ok n =>
        obtain ⟨place, bytes, mid, hmid, hall, heq⟩ := buildFrom_of_filled hacquire houtcome
        obtain ⟨place', bytes', mid', hmid', hall', heq'⟩ :=
          buildFrom_of_filled (hsame.symm.trans hacquire) houtcome
        rw [hall, Option.some.injEq] at hall'
        subst hall'
        rw [← hmid.outside, ← hmid'.outside] at hI
        obtain ⟨R', hR, hagreed, hI'⟩ := (Factory.construct_steady hfile source staged).together
          mid mid' R (hmid.sameSight hmid' hfiles) hI
        rw [heq, heq', TempFile.outside_release, TempFile.outside_release]
        exact ⟨R', hR, hagreed.mapError _, hI'⟩
  · intro s other R hI
    unfold stage
    cases hacquire : (r.stager.acquire dir s).1 with
    | error why =>
      obtain ⟨notes, heq⟩ := buildFrom_of_refused source hacquire
      rw [heq]
      exact hI
    | ok staged =>
      cases houtcome : source.outcome r.stager staged.path with
      | error why =>
        obtain ⟨place, bytes, mid, hmid, heq⟩ := buildFrom_of_unfilled hacquire houtcome
        rw [heq, TempFile.outside_release, hmid.outside]
        exact hI
      | ok n =>
        obtain ⟨place, bytes, mid, hmid, -, heq⟩ := buildFrom_of_filled hacquire houtcome
        rw [heq, TempFile.outside_release]
        rw [← hmid.outside] at hI
        exact (Factory.construct_steady hfile source staged).alone mid other R hI

theorem carryOut_steady (hsteady : r.Steady I) (q : Request) {plan : Plan σ τ}
    (hplan : r.plan? q = some plan) : (r.carryOut plan).Steady I := by
  cases plan with
  | fail why => exact ⟨fun s t R _ hI => ⟨R, fun _ _ h => h, .error _, hI⟩, fun s other R hI => hI⟩
  | stage dir source => exact stage_steady hsteady.file dir source
  | delegate call inner =>
    refine (hsteady.inner q inner ⟨call, hplan⟩).of_record .fault fun s => ?_
    exact ⟨s.calls ++ [call], (inner { s with calls := s.calls ++ [call] }).2.notes, rfl⟩

end Resolver

/-! ## Desks -/

/-- The desks of the two runs: their caches agree, and nothing else that matters differs. -/
structure Desk.Linked (I : Bond σ τ) (R : τ → τ → Prop) (C D : Desk σ τ) : Prop where
  cache : C.cache.Agree R D.cache
  files : C.scene.files.SameSight D.scene.files
  bond : I C.scene.outside D.scene.outside R

namespace Resolver

variable {I : Bond σ τ} {r : Resolver σ τ} {R : τ → τ → Prop} {C D : Desk σ τ}

theorem find_together (resources : Resources) (id : ResourceId) (style : Style)
    (h : C.Linked I R D) :
    let found := find resources id style C
    let found' := find resources id style D
    Option.Rel R found.1 found'.1 ∧ found.2.cache.Agree R found'.2.cache := by
  cases hpackage : resources.packageName id with
  | error why =>
    rw [find_of_unknown hpackage, find_of_unknown hpackage]
    exact ⟨.none, h.cache⟩
  | ok package =>
    obtain ⟨notes, hfind⟩ := find_of_known hpackage style C
    obtain ⟨notes', hfind'⟩ := find_of_known hpackage style D
    rw [hfind, hfind']
    exact h.cache.get ⟨package, id, style⟩

theorem buildAndRemember_together (resources : Resources) (id : ResourceId) (style : Style)
    {build : Act σ (Except (Halt TypefaceFault) τ)} (hbuild : build.Steady I)
    (h : C.Linked I R D) :
    let made := buildAndRemember resources id style build C
    let made' := buildAndRemember resources id style build D
    ∃ R' : τ → τ → Prop, (∀ x y, R x y → R' x y) ∧ Agreed R' made.1 made'.1 ∧
      made.2.cache.Agree R' made'.2.cache ∧
      I made.2.scene.outside made'.2.scene.outside R' := by
  cases hpackage : resources.packageName id with
  | error why =>
    rw [buildAndRemember_of_unknown hpackage, buildAndRemember_of_unknown hpackage]
    exact ⟨R, fun _ _ h => h, .error _, h.cache, h.bond⟩
  | ok package =>
    obtain ⟨R', hR, hagreed, hI⟩ :=
      hbuild.together (C.scene.asked id) (D.scene.asked id) R h.files h.bond
    refine ⟨R', hR, ?_⟩
    have hcache := h.cache.mono hR
    generalize hC : (build (C.scene.asked id)).1 = made at hagreed
    generalize hD : (build (D.scene.asked id)).1 = made' at hagreed
    cases hagreed with
    | error why =>
      rw [buildAndRemember_of_fault hpackage hC, buildAndRemember_of_fault hpackage hD]
      exact ⟨.error _, hcache, hI⟩
    | ok hpair =>
      obtain ⟨notes, heq⟩ := buildAndRemember_of_built style hpackage hC
      obtain ⟨notes', heq'⟩ := buildAndRemember_of_built style hpackage hD
      rw [heq, heq']
      exact ⟨.ok hpair, hcache.insert _ hpair, hI⟩

theorem outside_buildAndRemember_alone (resources : Resources) (id : ResourceId) (style : Style)
    {build : Act σ (Except (Halt TypefaceFault) τ)} (hbuild : build.Steady I) {other : σ}
    (hI : I C.scene.outside other R) :
    I (buildAndRemember resources id style build C).2.scene.outside other R := by
  rcases buildAndRemember_scene resources id style build C with hscene | ⟨notes, hscene⟩
  · rw [hscene]
    exact hI
  · rw [hscene]
    exact hbuild.alone (C.scene.asked id) other R hI

theorem perform_together (hsteady : r.Steady I) (q : Request) (h : C.Linked I R D) :
    ∃ R' : τ → τ → Prop, (∀ x y, R x y → R' x y) ∧
      (r.perform q C).1.Agree R' (r.perform q D).1 ∧
      (r.perform q C).2.Linked I R' (r.perform q D).2 := by
  have hfiles : (r.perform q C).2.scene.files.SameSight (r.perform q D).2.scene.files :=
    (perform_sameSight hsteady.tidy (hsteady.leaves q) C).symm.trans
      (h.files.trans (perform_sameSight hsteady.tidy (hsteady.leaves q) D))
  cases q with
  | find resources id style =>
    obtain ⟨hfound, hcache⟩ := find_together resources id style h
    refine ⟨R, fun _ _ h => h, .found hfound, hcache, hfiles, ?_⟩
    obtain ⟨notes, hC⟩ := find_scene resources id style C
    obtain ⟨notes', hD⟩ := find_scene resources id style D
    rw [perform_find, perform_find, hC, hD]
    exact h.bond
  | fontFile dir resources id style =>
    obtain ⟨R', hR, hagreed, hcache, hI⟩ := buildAndRemember_together resources id style
      (carryOut_steady hsteady (.fontFile dir resources id style) rfl) h
    exact ⟨R', hR, .built hagreed, hcache, hfiles, hI⟩
  | family dir family resources id style =>
    rw [perform_family, perform_family, buildEntry_eq] at hfiles ⊢
    obtain ⟨R', hR, hagreed, hcache, hI⟩ := buildAndRemember_together resources id style
      (carryOut_steady hsteady (.family dir family resources id style) rfl) h
    exact ⟨R', hR, .built hagreed, hcache, hfiles, hI⟩
  | offers dir offers buffers =>
    rw [perform_offers, perform_offers, createFromOffers_eq] at hfiles ⊢
    obtain ⟨R', hR, hagreed, hI⟩ :=
      (carryOut_steady hsteady (.offers dir offers buffers) rfl).together C.scene D.scene R
        h.files h.bond
    exact ⟨R', hR, .built hagreed, h.cache.mono hR, hfiles, hI⟩

theorem outside_perform_alone (hsteady : r.Steady I) (q : Request) {other : σ}
    (hI : I C.scene.outside other R) : I (r.perform q C).2.scene.outside other R := by
  cases q with
  | find resources id style =>
    obtain ⟨notes, hscene⟩ := find_scene resources id style C
    rw [perform_find, hscene]
    exact hI
  | fontFile dir resources id style =>
    exact outside_buildAndRemember_alone resources id style
      (carryOut_steady hsteady (.fontFile dir resources id style) rfl) hI
  | family dir family resources id style =>
    rw [perform_family, buildEntry_eq]
    exact outside_buildAndRemember_alone resources id style
      (carryOut_steady hsteady (.family dir family resources id style) rfl) hI
  | offers dir offers buffers =>
    rw [perform_offers, createFromOffers_eq]
    exact (carryOut_steady hsteady (.offers dir offers buffers) rfl).alone C.scene other R hI

end Resolver

/-! ## Runs -/

/-- A build that failed, or one from offers. -/
def Event.passing : Event τ → Bool
  | ⟨.offers .., _⟩ => true
  | ⟨_, .built (.error _)⟩ => true
  | _ => false

namespace Resolver

variable {I : Bond σ τ} {r : Resolver σ τ} {R : τ → τ → Prop} {C D : Desk σ τ}

theorem cache_of_passing (r : Resolver σ τ) (q : Request) (desk : Desk σ τ)
    (h : Event.passing ⟨q, (r.perform q desk).1⟩ = true) :
    (r.perform q desk).2.cache = desk.cache := by
  rw [cache_perform]
  generalize hreply : (r.perform q desk).1 = reply at h ⊢
  match q, reply, h with
  | .find .., .built _, _ => cases hreply
  | .fontFile .., .built (.error why), _ => rfl
  | .family .., .built (.error why), _ => rfl
  | .offers .., _, _ => rfl

def lasting (r : Resolver σ τ) (requests : List Request) (desk : Desk σ τ) : List (Event τ) :=
  (r.events requests desk).filter (!·.passing)

/-- **Side by side.** A second run that leaves out what is passing gives the same events, up to the
pairing of what the two runs have built. -/
theorem run_lasting (hsteady : r.Steady I) (requests : List Request) (h : C.Linked I R D) :
    ∃ R' : τ → τ → Prop, (∀ x y, R x y → R' x y) ∧
      List.Forall₂ (Event.Agree R') (r.lasting requests C)
        (r.events ((r.lasting requests C).map Event.request) D) ∧
      (r.performAll requests C).2.Linked I R'
        (r.performAll ((r.lasting requests C).map Event.request) D).2 := by
  induction requests generalizing C D R with
  | nil => exact ⟨R, fun _ _ h => h, .nil, h⟩
  | cons q qs ih =>
    have hlasting : r.lasting (q :: qs) C =
        if Event.passing ⟨q, (r.perform q C).1⟩ then r.lasting qs (r.perform q C).2
        else ⟨q, (r.perform q C).1⟩ :: r.lasting qs (r.perform q C).2 := by
      rw [lasting, events_cons, List.filter_cons]
      cases Event.passing ⟨q, (r.perform q C).1⟩ <;> rfl
    rw [hlasting, performAll_cons]
    split
    -- The second run stands still. All that moves in the first is the log and what is outside.
    · rename_i hpassing
      refine ih ⟨?_, ?_, outside_perform_alone hsteady q h.bond⟩
      · rw [cache_of_passing r q C hpassing]
        exact h.cache
      · exact (perform_sameSight hsteady.tidy (hsteady.leaves q) C).symm.trans h.files
    -- Both runs move, and the pairs may grow. The reply agrees under the later pairs as well.
    · obtain ⟨R', hR, hreply, hlinked⟩ := perform_together hsteady q h
      obtain ⟨R'', hR', hevents, hend⟩ := ih hlinked
      rw [List.map_cons, events_cons, performAll_cons]
      exact ⟨R'', fun x y hxy => hR' x y (hR x y hxy), .cons ⟨rfl, hreply.mono hR'⟩ hevents, hend⟩

theorem run_lasting_map (hsteady : r.Steady I) (requests : List Request) (h : C.Linked I R D) :
    let lasting := r.lasting requests C
    let requests' := lasting.map Event.request
    ∃ R',
      I (r.performAll requests C).2.scene.outside (r.performAll requests' D).2.scene.outside R' ∧
      ∀ f : τ → τ, (∀ x y, R' x y → y = f x) →
        r.events requests' D = lasting.map (Event.map f) ∧
        (r.performAll requests' D).2.cache = (r.performAll requests C).2.cache.map f := by
  obtain ⟨R', -, hevents, hend⟩ := run_lasting hsteady requests h
  refine ⟨R', hend.bond, fun f hf => ⟨?_, hend.cache.eq_map hf⟩⟩
  have hmap : List.Forall₂ Eq ((r.lasting requests C).map (Event.map f))
      (r.events ((r.lasting requests C).map Event.request) D) := by
    rw [List.forall₂_map_left_iff]
    exact hevents.imp fun e e' he => (he.eq_map hf).symm
  rw [List.forall₂_eq_eq_eq] at hmap
  exact hmap.symm

end Resolver

end Typecase
