import Typecase.Proofs.Staging.TempFile
import Typecase.Resolver.Lemmas

/-!
# How a build through a temp file can go

It ends without a name, or without the bytes, or the factory gets the path of a new file that holds
all bytes of its source. In each case the temp file is released last.
-/

namespace Typecase

variable {σ τ : Type}

/-! ## Midway -/

/-- Midway through a build from `scene`, the path names a file with these bytes. Nothing was at its
place before, and nothing else has changed. -/
structure Midway (scene : Scene σ) (p : Path) (place : Place) (bytes : Bytes) (mid : Scene σ) :
    Prop where
  names : scene.files.Names p place
  free : scene.files.look place = none
  files : mid.files = scene.files.staged place bytes
  outside : mid.outside = scene.outside

namespace Midway

variable {p : Path} {scene mid after : Scene σ} {place : Place} {bytes : Bytes}

theorem absent (h : Midway scene p place bytes mid) :
    scene.files.openExisting p = .error .notFound :=
  h.names.openExisting_of_none h.free

theorem sameElsewhere (h : Midway scene p place bytes mid) :
    scene.files.SameElsewhere place mid.files := by
  rw [h.files]
  exact Store.sameElsewhere_staged _ h.names.ne_root bytes

theorem names_mid (h : Midway scene p place bytes mid) : mid.files.Names p place :=
  h.sameElsewhere.names h.names (by simp [h.free])

theorem sight (h : Midway scene p place bytes mid) :
    mid.files.sight place = some (.file bytes) := by
  rw [h.files]
  exact Store.sight_staged_self _ h.names.ne_root bytes

theorem read (h : Midway scene p place bytes mid) : mid.files.read p = .ok bytes :=
  h.names_mid.read h.sight

theorem release (h : Midway scene p place bytes mid)
    (hafter : mid.files.SameElsewhere place after.files) :
    scene.files.SameSight ((⟨p⟩ : TempFile).release after).2.files :=
  TempFile.release_sameSight h.names h.free (h.sameElsewhere.trans hafter)

theorem sameSight {scene' mid' : Scene σ} {place' : Place}
    (h : Midway scene p place bytes mid) (h' : Midway scene' p place' bytes mid')
    (hscene : scene.files.SameSight scene'.files) : mid.files.SameSight mid'.files := by
  rw [h.files, h'.files, (hscene.names h.names).unique h'.names]
  exact hscene.staged h.names.ne_root bytes

end Midway

/-! ## Sources -/

inductive Source where
  | resource (resources : Resources) (id : ResourceId)
  | buffer (bytes : Bytes)

namespace Source

def fill (s : Stager) (staged : TempFile) : Source → Act σ (Except (Halt StagingFault) Nat)
  | .resource resources id => s.copyResourceToFile staged.path resources id
  | .buffer bytes => s.copyBufferToFile staged.path bytes

def outcome (s : Stager) (p : Path) : Source → Except (Halt StagingFault) Nat
  | .resource resources id => s.resourceOutcome resources id p
  | .buffer bytes => s.copyOutcome p (.ofBytes bytes)

def bytes? : Source → Option Bytes
  | .resource resources id => resources.bytes? id
  | .buffer bytes => some bytes

theorem fills (source : Source) (s : Stager) :
    Stager.Fills (σ := σ) (source.fill s ·) (source.outcome s) source.bytes? := by
  cases source with
  | resource resources id => exact s.fills_copyResourceToFile resources id
  | buffer bytes => exact s.fills_copyBufferToFile bytes

/-- There is a stream to read from. -/
def Opens : Source → Prop
  | .resource resources id => ∃ stream, resources.openRaw id = .ok stream
  | .buffer _ => True

theorem outcome_eq_noBuffer_iff (source : Source) (s : Stager) (p : Path) :
    source.outcome s p = .error .noBuffer ↔ ¬ s.CanBuffer ∧ source.Opens := by
  cases source with
  | resource resources id => exact s.resourceOutcome_eq_noBuffer_iff resources id p
  | buffer bytes => simp [outcome, Opens, Stager.copyOutcome_eq_noBuffer_iff]

def rejection (factory : String) (why : TypefaceFault) : Source → List Note
  | .resource _ id => [.resourceRejected factory id why]
  | .buffer _ => []

end Source

/-! ## What the factory is asked -/

namespace Factory

theorem build_apply (f : Factory σ τ) (p : Path) (s : Scene σ) :
    f.build p s =
      f.fromFile p { s with calls := s.calls ++ [.buildFile p (s.files.read p).toOption] } := rfl

def construct (f : Factory σ τ) (source : Source) (staged : TempFile) :
    Act σ (Except TypefaceFault τ) := do
  match ← f.build staged.path with
  | .error why =>
    modify fun s => { s with notes := s.notes ++ source.rejection f.name why }
    return .error (.ofConstruction why)
  | .ok typeface => return .ok typeface

theorem construct_eq (f : Factory σ τ) (source : Source) (staged : TempFile) (s : Scene σ) :
    ∃ notes, f.construct source staged s =
      ((f.build staged.path s).1.mapError .ofConstruction,
        { (f.build staged.path s).2 with notes }) := by
  simp only [construct, Act.bind_apply]
  cases (f.build staged.path s).1 with
  | error why => exact ⟨_, rfl⟩
  | ok typeface => exact ⟨(f.build staged.path s).2.notes, rfl⟩

/-- All the factory does to the files is to read, rewrite or remove the file that it is handed. -/
def Tidy (f : Factory σ τ) : Prop :=
  ∀ (p : Path) (place : Place) (bytes : Bytes) (s : Scene σ), s.files.Names p place →
    s.files.sight place = some (.file bytes) →
    s.files.SameElsewhere place (f.fromFile p s).2.files

end Factory

/-! ## The ways a build can go -/

namespace Resolver

def stage (r : Resolver σ τ) (dir : Path) (source : Source) :
    Act σ (Except (Halt TypefaceFault) τ) :=
  r.buildFrom dir (source.fill r.stager ·) (r.factory.construct source)

theorem buildStaged_eq (r : Resolver σ τ) (dir : Path) (resources : Resources) (id : ResourceId) :
    r.buildStaged dir resources id = r.stage dir (.resource resources id) := rfl

theorem buildFrom_buffer_eq (r : Resolver σ τ) (dir : Path) (bytes : Bytes) :
    r.buildFrom dir (fun staged => r.stager.copyBufferToFile staged.path bytes)
        (fun staged => return (← r.factory.build staged.path).mapError .ofConstruction) =
      r.stage dir (.buffer bytes) := by
  have hconstruct : r.factory.construct (.buffer bytes) = fun staged =>
      return (← r.factory.build staged.path).mapError .ofConstruction := by
    funext staged s
    simp only [Factory.construct, Act.bind_apply, Source.rejection, List.append_nil]
    cases (r.factory.build staged.path s).1 <;> rfl
  rw [stage, hconstruct]
  rfl

section

variable {r : Resolver σ τ} {dir : Path} {source : Source} {scene : Scene σ} {staged : TempFile}

theorem fill_acquired (h : (r.stager.acquire dir scene).1 = .ok staged) (source : Source) :
    ∃ place bytes mid, Midway scene staged.path place bytes mid ∧
      source.fill r.stager staged (r.stager.acquire dir scene).2 =
        (source.outcome r.stager staged.path, mid) ∧
      ∀ n, source.outcome r.stager staged.path = .ok n → source.bytes? = some bytes := by
  rcases r.stager.acquire_cases dir scene with
    ⟨notes, hacquire⟩ | ⟨p, place, notes, hnames, hfree, hacquire⟩
  · rw [hacquire] at h
    cases h
  · rw [hacquire] at h ⊢
    cases h
    obtain ⟨bytes, notes', calls, hfill, hall⟩ := source.fills r.stager p place scene.files
      { scene with files := scene.files.staged place [], notes } hnames hfree rfl
    exact ⟨place, bytes,
      { scene with files := scene.files.staged place bytes, notes := notes', calls },
      ⟨hnames, hfree, rfl, rfl⟩, hfill, hall⟩

theorem buildFrom_of_refused (source : Source) {why : StagingFault}
    (h : (r.stager.acquire dir scene).1 = .error why) :
    ∃ notes, ∀ construct, r.buildFrom dir (source.fill r.stager ·) construct scene =
      (.error (.fault (.ofStaging why)), { scene with notes }) := by
  rcases r.stager.acquire_cases dir scene with ⟨notes, hacquire⟩ | ⟨p, place, notes, -, -, hacquire⟩
  · rw [hacquire] at h
    cases h
    refine ⟨notes, fun construct => ?_⟩
    simp only [buildFrom, Act.bind_apply, hacquire, Act.pure_apply]
  · rw [hacquire] at h
    cases h

theorem buildFrom_of_unfilled {why : Halt StagingFault}
    (h : (r.stager.acquire dir scene).1 = .ok staged)
    (houtcome : source.outcome r.stager staged.path = .error why) :
    ∃ place bytes mid, Midway scene staged.path place bytes mid ∧
      ∀ construct, r.buildFrom dir (source.fill r.stager ·) construct scene =
        (.error (why.map .ofStaging), (staged.release mid).2) := by
  obtain ⟨place, bytes, mid, hmid, hfill, -⟩ := fill_acquired h source
  refine ⟨place, bytes, mid, hmid, fun construct => ?_⟩
  simp only [buildFrom, Act.bind_apply, h, hfill, houtcome, Act.pure_apply]

theorem buildFrom_of_filled {n : Nat} (h : (r.stager.acquire dir scene).1 = .ok staged)
    (houtcome : source.outcome r.stager staged.path = .ok n) :
    ∃ place bytes mid, Midway scene staged.path place bytes mid ∧ source.bytes? = some bytes ∧
      ∀ construct, r.buildFrom dir (source.fill r.stager ·) construct scene =
        ((construct staged mid).1.mapError .fault,
          (staged.release (construct staged mid).2).2) := by
  obtain ⟨place, bytes, mid, hmid, hfill, hall⟩ := fill_acquired h source
  refine ⟨place, bytes, mid, hmid, hall n houtcome, fun construct => ?_⟩
  simp only [buildFrom, Act.bind_apply, h, hfill, houtcome, Act.pure_apply]

theorem stage_of_refused (source : Source) (hfree : r.stager.firstFree dir scene.files = none) :
    ∃ notes, r.stage dir source scene =
      (.error (.fault (.staging (.exhausted dir r.stager.settings.maxAttempts))),
        { scene with notes }) := by
  have hacquire : (r.stager.acquire dir scene).1 =
      .error (.exhausted dir r.stager.settings.maxAttempts) := by
    rw [Stager.fst_acquire, hfree]
  obtain ⟨notes, heq⟩ := buildFrom_of_refused source hacquire
  exact ⟨notes, heq _⟩

theorem stage_of_unfilled (source : Source) {path : Path} {why : Halt StagingFault}
    (hfree : r.stager.firstFree dir scene.files = some path)
    (houtcome : source.outcome r.stager path = .error why) :
    (r.stage dir source scene).1 = .error (why.map .ofStaging) ∧
      (r.stage dir source scene).2.outside = scene.outside := by
  have hacquire : (r.stager.acquire dir scene).1 = .ok ⟨path⟩ := by
    rw [Stager.fst_acquire, hfree]
  obtain ⟨place, bytes, mid, hmid, heq⟩ := buildFrom_of_unfilled hacquire houtcome
  rw [stage, heq]
  exact ⟨rfl, (TempFile.outside_release _ mid).trans hmid.outside⟩

end

/-- A build stops short for want of a buffer only. -/
theorem stage_eq_noBuffer_iff (r : Resolver σ τ) (dir : Path) (source : Source) (scene : Scene σ) :
    (r.stage dir source scene).1 = .error .noBuffer ↔
      ¬ r.stager.CanBuffer ∧ source.Opens ∧ r.stager.Admitted dir scene.files := by
  rw [Stager.admitted_iff_exists_firstFree, ← and_assoc]
  cases hfree : r.stager.firstFree dir scene.files with
  | none =>
    obtain ⟨notes, hstage⟩ := stage_of_refused source hfree
    simp [hstage]
  | some path =>
    rw [← source.outcome_eq_noBuffer_iff r.stager path]
    cases houtcome : source.outcome r.stager path with
    | error why =>
      rw [(stage_of_unfilled source hfree houtcome).1]
      cases why <;> simp [Halt.map]
    | ok n =>
      have hacquire : (r.stager.acquire dir scene).1 = .ok ⟨path⟩ := by
        rw [Stager.fst_acquire, hfree]
      obtain ⟨place, bytes, mid, -, -, hmade⟩ := buildFrom_of_filled hacquire houtcome
      rw [stage, hmade]
      cases (r.factory.construct source ⟨path⟩ mid).1 <;> simp [Except.mapError]

theorem stage_sameSight {r : Resolver σ τ} (htidy : r.factory.Tidy) (dir : Path) (source : Source)
    (scene : Scene σ) : scene.files.SameSight (r.stage dir source scene).2.files := by
  unfold stage
  cases hacquire : (r.stager.acquire dir scene).1 with
  | error why =>
    obtain ⟨notes, heq⟩ := buildFrom_of_refused source hacquire
    rw [heq]
    exact .refl _
  | ok staged =>
    cases houtcome : source.outcome r.stager staged.path with
    | error why =>
      obtain ⟨place, bytes, mid, hmid, heq⟩ := buildFrom_of_unfilled hacquire houtcome
      rw [heq]
      refine hmid.release ⟨fun _ _ => rfl, ?_⟩
      simp [hmid.sight]
    | ok n =>
      obtain ⟨place, bytes, mid, hmid, -, heq⟩ := buildFrom_of_filled hacquire houtcome
      rw [heq]
      apply hmid.release
      obtain ⟨notes, hmade⟩ := r.factory.construct_eq source staged mid
      rw [hmade, Factory.build_apply]
      exact htidy staged.path place bytes _ hmid.names_mid hmid.sight

end Resolver

end Typecase
