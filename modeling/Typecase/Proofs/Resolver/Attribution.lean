import Typecase.Proofs.Resolver.Transparency

/-!
# Who is to blame

The build of a font file goes step by step: its package is asked for, a name is taken, the resource
is opened and read, and the factory makes a typeface of the bytes. The first step that goes wrong
decides the fault, and the fault tells which step it was.
-/

namespace Typecase

variable {σ τ : Type}

/-! ## Faults of the factory -/

namespace TypefaceFault

/-- The words of a fault that say what is wrong with the bytes. -/
def reason : TypefaceFault → String
  | malformed reason => reason
  | other => other.message

theorem ofResource_injective : Function.Injective ofResource := by
  intro why why' h
  cases why <;> cases why' <;> simp_all [ofResource]

theorem ofResource_ne_staging (why : ResourceFault) (cause : StagingFault) :
    ofResource why ≠ .staging cause := by
  cases why <;> simp [ofResource]

theorem ofResource_ne_malformed (why : ResourceFault) (reason : String) :
    ofResource why ≠ .malformed reason := by
  cases why <;> simp [ofResource]

end TypefaceFault

theorem verdict_eq_error_iff (made : Except TypefaceFault τ) (halt : Halt TypefaceFault) :
    verdict made = .error halt ↔
      ∃ why, made = .error why ∧ halt = .fault (.malformed why.reason) := by
  cases made with
  | ok typeface => simp [verdict]
  | error why => cases why <;> simp [verdict, TypefaceFault.reason, eq_comm]

/-! ## The steps of a build -/

/-- The ways that the build of a font file can go, each with its result and what it leaves. -/
inductive Course (r : Resolver σ τ) (dir : Path) (resources : Resources) (id : ResourceId)
    (start : Scene σ) : Except (Halt TypefaceFault) τ → Scene σ → Prop
  /-- The package is asked for before anything is done in the directory. -/
  | unknown {why : ResourceFault} (package : resources.packageName id = .error why) :
      Course r dir resources id start (.error (.fault (.ofResource why))) (start.asked id)
  /-- Without a name, the resource is not opened. -/
  | refused {package : String} (known : resources.packageName id = .ok package)
      (free : r.stager.firstFree dir start.files = none) (notes : List Note) :
      Course r dir resources id start
        (.error (.fault (.staging (.exhausted dir r.stager.settings.maxAttempts))))
        { start.asked id with notes }
  | unopened {package : String} {path : Path} {why : ResourceFault} {after : Scene σ}
      (known : resources.packageName id = .ok package)
      (free : r.stager.firstFree dir start.files = some path)
      (opened : resources.openRaw id = .error why) (outside : after.outside = start.outside) :
      Course r dir resources id start (.error (.fault (.ofResource why))) after
  | unread {package : String} {path : Path} {stream : Stream} {cause : IoFault} {after : Scene σ}
      (known : resources.packageName id = .ok package)
      (free : r.stager.firstFree dir start.files = some path)
      (opened : resources.openRaw id = .ok stream) (read : stream.readAll = .error cause)
      (outside : after.outside = start.outside) :
      Course r dir resources id start (.error (.fault (.staging (.write path cause)))) after
  /-- The factory gets the path once the file holds all bytes of the resource. -/
  | judged {package : String} {path : Path} {stream : Stream} {bytes : Bytes} {mid after : Scene σ}
      (known : resources.packageName id = .ok package)
      (free : r.stager.firstFree dir start.files = some path)
      (opened : resources.openRaw id = .ok stream) (read : stream.readAll = .ok bytes)
      (held : mid.files.read path = .ok bytes) (outside : mid.outside = start.outside) :
      Course r dir resources id start (verdict (r.factory.fromFile path mid).1) after

namespace Resolver

theorem course_createFromFile {r : Resolver σ τ} (hbuffer : r.stager.CanBuffer) (dir : Path)
    (resources : Resources) (id : ResourceId) (style : Style) (desk : Desk σ τ) :
    Course r dir resources id desk.scene (r.createFromFile dir resources id style desk).1
      (r.createFromFile dir resources id style desk).2.scene := by
  unfold createFromFile
  rw [buildStaged_eq]
  cases hpackage : resources.packageName id with
  | error why =>
    rw [buildAndRemember_of_unknown hpackage]
    exact .unknown hpackage
  | ok package =>
    -- Asking for the package leaves the files, so the free name is that of the desk.
    cases hfree : r.stager.firstFree dir (desk.scene.asked id).files with
    | none =>
      obtain ⟨notes, hstage⟩ := stage_of_refused (.resource resources id) hfree
      rw [buildAndRemember_of_fault hpackage (congrArg Prod.fst hstage), hstage]
      refine .refused hpackage ?_ notes
      exact hfree
    | some path =>
      cases hopen : resources.openRaw id with
      | error why =>
        obtain ⟨hfault, houtside⟩ := stage_of_unfilled (.resource resources id) hfree
          (Stager.resourceOutcome_of_unopened hopen path)
        rw [buildAndRemember_of_fault hpackage hfault]
        exact .unopened hpackage hfree hopen houtside
      | ok stream =>
        cases hread : stream.readAll with
        | error cause =>
          obtain ⟨hfault, houtside⟩ := stage_of_unfilled (.resource resources id) hfree
            (Stager.resourceOutcome_of_unread hbuffer hopen hread path)
          rw [buildAndRemember_of_fault hpackage hfault]
          exact .unread hpackage hfree hopen hread houtside
        | ok bytes =>
          have hbytes : resources.bytes? id = some bytes :=
            (Resources.bytes?_eq_some_iff hopen bytes).mpr
              ((Stager.readAll_eq_ok_iff stream bytes).mp hread)
          obtain ⟨mid, hheld, houtside, hmade⟩ := stage_of_filled hfree hbuffer hbytes
          rw [fst_buildAndRemember hpackage, hmade]
          exact .judged hpackage hfree hopen hread hheld houtside

end Resolver

/-! ## What a fault tells -/

/-- The resource set itself refuses: it does not know the package, or it does not open the resource
when there is a name for it. -/
def Refuses (s : Stager) (dir : Path) (resources : Resources) (id : ResourceId) (files : Store)
    (why : ResourceFault) : Prop :=
  resources.packageName id = .error why ∨
    ∃ package path, resources.packageName id = .ok package ∧ s.firstFree dir files = some path ∧
      resources.openRaw id = .error why

/-- The temp file cannot be made or filled: there is no name for it, or the stream of the resource
breaks off. -/
def Obstructs (s : Stager) (dir : Path) (resources : Resources) (id : ResourceId) (files : Store)
    (why : StagingFault) : Prop :=
  ∃ package, resources.packageName id = .ok package ∧
    ((s.firstFree dir files = none ∧ why = .exhausted dir s.settings.maxAttempts) ∨
      ∃ path stream cause, s.firstFree dir files = some path ∧ resources.openRaw id = .ok stream ∧
        stream.readAll = .error cause ∧ why = .write path cause)

theorem not_obstructs_resource {s : Stager} {dir : Path} {resources : Resources} {id : ResourceId}
    {files : Store} {cause : ResourceFault} :
    ¬ Obstructs s dir resources id files (.resource cause) := by
  rintro ⟨package, -, ⟨-, hwhy⟩ | ⟨path, stream, fault, -, -, -, hwhy⟩⟩
  · cases hwhy
  · cases hwhy

/-- The factory rejects a file that holds all bytes of the resource. -/
def Rejects (r : Resolver σ τ) (dir : Path) (resources : Resources) (id : ResourceId)
    (start : Scene σ) (reason : String) : Prop :=
  ∃ (path : Path) (stream : Stream) (bytes : Bytes) (mid : Scene σ) (why : TypefaceFault),
    r.stager.firstFree dir start.files = some path ∧ resources.openRaw id = .ok stream ∧
    stream.readAll = .ok bytes ∧ mid.files.read path = .ok bytes ∧ mid.outside = start.outside ∧
    (r.factory.fromFile path mid).1 = .error why ∧ reason = why.reason

namespace Course

variable {r : Resolver σ τ} {dir : Path} {resources : Resources} {id : ResourceId}
variable {start after : Scene σ} {result : Except (Halt TypefaceFault) τ}

theorem ofResource_iff (h : Course r dir resources id start result after) (why : ResourceFault) :
    result = .error (.fault (.ofResource why)) ↔
      Refuses r.stager dir resources id start.files why := by
  unfold Refuses
  cases h with
  | unknown package =>
    simp [package, TypefaceFault.ofResource_injective.eq_iff]
  | refused known free notes =>
    simp [known, free, (TypefaceFault.ofResource_ne_staging _ _).symm]
  | unopened known free opened outside =>
    simp [known, free, opened, TypefaceFault.ofResource_injective.eq_iff]
  | unread known free opened read outside =>
    simp [known, free, opened, (TypefaceFault.ofResource_ne_staging _ _).symm]
  | judged known free opened read held outside =>
    -- Any fault of the factory is malformed by now, also one that names a resource.
    simp [known, free, opened, verdict_eq_error_iff, TypefaceFault.ofResource_ne_malformed]

theorem staging_iff (h : Course r dir resources id start result after) (why : StagingFault) :
    result = .error (.fault (.staging why)) ↔
      Obstructs r.stager dir resources id start.files why := by
  unfold Obstructs
  cases h with
  | unknown package =>
    simp [package, TypefaceFault.ofResource_ne_staging]
  | refused known free notes =>
    simp [known, free, eq_comm]
  | unopened known free opened outside =>
    simp [known, free, opened, TypefaceFault.ofResource_ne_staging]
  | unread known free opened read outside =>
    simp [known, free, opened, read, eq_comm]
  | judged known free opened read held outside =>
    simp [known, free, opened, read, verdict_eq_error_iff]

theorem rejects_of_malformed (h : Course r dir resources id start result after) {reason : String}
    (hresult : result = .error (.fault (.malformed reason))) :
    Rejects r dir resources id start reason := by
  cases h with
  | unknown package => simp [TypefaceFault.ofResource_ne_malformed] at hresult
  | refused known free notes => simp at hresult
  | unopened known free opened outside =>
    simp [TypefaceFault.ofResource_ne_malformed] at hresult
  | unread known free opened read outside => simp at hresult
  | judged known free opened read held outside =>
    obtain ⟨why, hmade, hreason⟩ := (verdict_eq_error_iff _ _).mp hresult
    rw [Halt.fault.injEq, TypefaceFault.malformed.injEq] at hreason
    exact ⟨_, _, _, _, why, free, opened, read, held, outside, hmade, hreason⟩

/-- A build that fails is a fault of the resource set, of the temp file, or of the bytes. -/
theorem error_cases (h : Course r dir resources id start result after) {halt : Halt TypefaceFault}
    (hresult : result = .error halt) :
    (∃ why, halt = .fault (.ofResource why)) ∨ (∃ why, halt = .fault (.staging why)) ∨
      ∃ reason, halt = .fault (.malformed reason) := by
  cases h with
  | unknown package =>
    cases hresult
    exact .inl ⟨_, rfl⟩
  | refused known free notes =>
    cases hresult
    exact .inr (.inl ⟨_, rfl⟩)
  | unopened known free opened outside =>
    cases hresult
    exact .inl ⟨_, rfl⟩
  | unread known free opened read outside =>
    cases hresult
    exact .inr (.inl ⟨_, rfl⟩)
  | judged known free opened read held outside =>
    obtain ⟨why, -, hhalt⟩ := (verdict_eq_error_iff _ _).mp hresult
    exact .inr (.inr ⟨why.reason, hhalt⟩)

end Course

namespace Resolver

/-- **Faults are attributed.** The first step of a build that goes wrong decides its fault, whatever
the factory calls its own. A resource is missing or unreadable only if the resource set says so, a
staging fault is never about a resource, and what the factory refuses is malformed. -/
theorem faults_are_attributed (r : Resolver σ τ) (hbuffer : r.stager.CanBuffer) (dir : Path)
    (resources : Resources) (id : ResourceId) (style : Style) (desk : Desk σ τ) :
    let made := r.createFromFile dir resources id style desk
    let files := desk.scene.files
    Course r dir resources id desk.scene made.1 made.2.scene ∧
    (∀ x, made.1 = .error (.fault (.resourceNotFound x)) ↔
      Refuses r.stager dir resources id files (.notFound x)) ∧
    (∀ cause, made.1 = .error (.fault (.io cause)) ↔
      Refuses r.stager dir resources id files (.io cause)) ∧
    (∀ why, made.1 = .error (.fault (.staging why)) ↔
      Obstructs r.stager dir resources id files why) ∧
    (∀ cause, made.1 ≠ .error (.fault (.staging (.resource cause)))) ∧
    (∀ reason, made.1 = .error (.fault (.malformed reason)) →
      Rejects r dir resources id desk.scene reason) ∧
    ∀ halt, made.1 = .error halt →
      (∃ why, halt = .fault (.ofResource why)) ∨ (∃ why, halt = .fault (.staging why)) ∨
        ∃ reason, halt = .fault (.malformed reason) := by
  have h := course_createFromFile hbuffer dir resources id style desk
  refine ⟨h, fun x => h.ofResource_iff (.notFound x), fun cause => h.ofResource_iff (.io cause),
    h.staging_iff, ?_, fun _ => h.rejects_of_malformed, fun _ => h.error_cases⟩
  intro cause hresult
  exact not_obstructs_resource ((h.staging_iff _).mp hresult)

/-! ## A factory that speaks for the resources -/

/-- Its factory reads every file, and then says that some resource is not there. -/
def slanderers : Resolver Nat FontData where
  factory := .ofFiles "slander" fun path => do
    match (← Act.files).read path with
    | .error why => return .error (.io (.os why))
    | .ok _ => return .error (.resourceNotFound 0xbeef)
  strategy := .direct
  stager := { identity := ⟨7, 3⟩ }

theorem slander_is_not_believed :
    slanderers.stager.CanBuffer ∧
    (slanderers.createFromFile ⟨"/"⟩ (bundle "a" piecemeal) 5 .bold bareDesk).1 =
      .error (.fault (.malformed "Resource not found: 0xbeef")) ∧
    ∀ x, (slanderers.createFromFile ⟨"/"⟩ (bundle "a" piecemeal) 5 .bold bareDesk).1 ≠
      .error (.fault (.resourceNotFound x)) := by
  have hbuffer : slanderers.stager.CanBuffer := by decide
  have hblame := faults_are_attributed slanderers hbuffer ⟨"/"⟩ (bundle "a" piecemeal) 5 .bold
    bareDesk
  refine ⟨hbuffer, by decide +kernel, fun x hresult => ?_⟩
  rcases (hblame.2.1 x).mp hresult with hpackage | ⟨package, path, -, -, hopen⟩
  · cases hpackage
  · cases hopen

end Resolver

end Typecase
