import Typecase.Staging.Mapping

/-!
# Chores: what stagers can be asked, as data

A bench has the temp files that are in hand, and chores are done at it one after another. A workshop
has a bench and a stager for each of its workers. They all work on the same files.
-/

namespace Typecase

/-- A file to work on: that of a temp file in hand, or any other by its path. -/
inductive Target where
  | slot (k : Nat)
  | path (p : Path)
  deriving DecidableEq, Repr

/-- A call on a stager or on a temp file. -/
inductive Chore where
  | acquire (s : Stager) (dir : Path)
  | copy (s : Stager) (target : Target) (source : Stream)
  | map (target : Target)
  | buffer (s : Stager) (dir : Path) (resources : Resources) (id : ResourceId)
  | drop (slot : Nat)

namespace Chore

inductive Answer where
  | acquired (outcome : Except StagingFault TempFile)
  | copied (outcome : Except (Halt StagingFault) Nat)
  | mapped (outcome : Except (Halt StagingFault) Mapping)
  | dropped
  /-- There is no temp file in the slot. -/
  | emptyHanded

end Chore

variable {σ ι : Type}

/-! ## Benches -/

/-- The scene, with the temp files in hand. The oldest is in slot 0. -/
structure Bench (σ : Type) where
  scene : Scene σ
  held : List TempFile := []

namespace Bench

def path? (bench : Bench σ) : Target → Option Path
  | .slot k => bench.held[k]?.map TempFile.path
  | .path p => some p

/-- Does one chore. What is acquired stays in hand until it is dropped. -/
def step (bench : Bench σ) : Chore → Chore.Answer × Bench σ
  | .acquire s dir =>
    match s.acquire dir bench.scene with
    | (.error why, scene) => (.acquired (.error why), { bench with scene })
    | (.ok t, scene) => (.acquired (.ok t), ⟨scene, bench.held ++ [t]⟩)
  | .copy s target source =>
    match bench.path? target with
    | none => (.emptyHanded, bench)
    | some p =>
      let (report, scene) := s.copyToFile p source bench.scene
      (.copied report.outcome, { bench with scene })
  | .map target =>
    match bench.path? target with
    | none => (.emptyHanded, bench)
    | some p =>
      let (outcome, scene) := mapReadOnly p bench.scene
      (.mapped (outcome.mapError .fault), { bench with scene })
  | .buffer s dir resources id =>
    let (outcome, scene) := s.copyResourceToBuffer dir resources id bench.scene
    (.mapped outcome, { bench with scene })
  | .drop k =>
    match bench.held[k]? with
    | none => (.emptyHanded, bench)
    | some t => (.dropped, ⟨(t.release bench.scene).2, bench.held.eraseIdx k⟩)

def run (bench : Bench σ) : List Chore → List Chore.Answer × Bench σ
  | [] => ([], bench)
  | chore :: chores =>
    let (answer, bench) := bench.step chore
    let (answers, bench) := bench.run chores
    (answer :: answers, bench)

end Bench

/-! ## Workshops -/

/-- What a worker does with its own stager and with what it has in hand. -/
inductive Errand where
  | take (dir : Path)
  | fill (slot : Nat) (source : Stream)
  | drop (slot : Nat)

def Errand.chore (s : Stager) : Errand → Chore
  | take dir => .acquire s dir
  | fill k source => .copy s (.slot k) source
  | drop k => .drop k

structure Workshop (ι σ : Type) where
  scene : Scene σ
  stager : ι → Stager
  held : ι → List TempFile := fun _ => []

namespace Workshop

def bench (shop : Workshop ι σ) (who : ι) : Bench σ := ⟨shop.scene, shop.held who⟩

variable [DecidableEq ι]

def step (shop : Workshop ι σ) (who : ι) (errand : Errand) : Chore.Answer × Workshop ι σ :=
  let (answer, bench) := (shop.bench who).step (errand.chore (shop.stager who))
  (answer, { shop with
    scene := bench.scene
    held := fun i => if i = who then bench.held else shop.held i })

def run (shop : Workshop ι σ) : List (ι × Errand) → List (ι × Chore.Answer) × Workshop ι σ
  | [] => ([], shop)
  | (who, errand) :: turns =>
    let (answer, shop) := shop.step who errand
    let (answers, shop) := shop.run turns
    ((who, answer) :: answers, shop)

end Workshop

end Typecase
