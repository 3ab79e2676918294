import Typecase.Factory.FontData
import Typecase.Proofs.Resolver.History
import Typecase.Proofs.Resolver.Staged
import Typecase.Proofs.Staging.FirstFree

/-!
# Staging is transparent

A font file is built as if the factory had been given the bytes of its resource. The directory, the
temp name, the buffer and the pieces of the stream leave no mark on the result.
-/

namespace Typecase

variable {σ τ α : Type}

/-! ## What the factory makes of bytes -/

/-- What the factory makes of a file, as far as `view` shows it, comes from the bytes alone. -/
def Factory.Parses (f : Factory σ τ) (view : τ → α) (parse : Bytes → Except TypefaceFault α) :
    Prop :=
  ∀ (p : Path) (bytes : Bytes) (s : Scene σ), s.files.read p = .ok bytes →
    (f.fromFile p s).1.map view = parse bytes

theorem Factory.parses_fontData :
    (fontData (σ := σ)).Parses (fun font => font) FontData.ofBytes := by
  intro p bytes s hread
  change (readFontFile p s).1.map (fun font => font) = FontData.ofBytes bytes
  simp only [readFontFile, Act.bind_apply, Act.files_apply, hread, Act.pure_apply]
  cases FontData.ofBytes bytes <;> rfl

theorem FontData.data_face_of_ofFace {data : Bytes} {face : UInt32} {font : FontData}
    (h : ofFace data face = .ok font) : font.data = data ∧ font.face = face := by
  unfold ofFace at h
  split at h
  · cases h
    exact ⟨rfl, rfl⟩
  · cases h

/-- A typeface is handed out as it is, and any fault of the bytes as malformed. -/
def verdict : Except TypefaceFault α → Except (Halt TypefaceFault) α
  | .ok typeface => .ok typeface
  | .error (.malformed reason) => .error (.fault (.malformed reason))
  | .error why => .error (.fault (.malformed why.message))

theorem verdict_eq_ok_iff (parsed : Except TypefaceFault α) (typeface : α) :
    verdict parsed = .ok typeface ↔ parsed = .ok typeface := by
  cases parsed with
  | ok other => simp [verdict]
  | error why => cases why <;> simp [verdict]

theorem map_verdict (view : τ → α) (made : Except TypefaceFault τ) :
    (verdict made).map view = verdict (made.map view) := by
  cases made with
  | ok typeface => rfl
  | error why => cases why <;> rfl

theorem mapError_eq_verdict (made : Except TypefaceFault τ) :
    (made.mapError .ofConstruction).mapError .fault = verdict made := by
  cases made with
  | ok typeface => rfl
  | error why => cases why <;> rfl

namespace Resolver

variable {r : Resolver σ τ} {dir : Path} {resources : Resources} {id : ResourceId}
variable {scene : Scene σ}

theorem stage_of_filled {path : Path} {bytes : Bytes}
    (hfree : r.stager.firstFree dir scene.files = some path) (hbuffer : r.stager.CanBuffer)
    (hbytes : resources.bytes? id = some bytes) :
    ∃ mid : Scene σ, mid.files.read path = .ok bytes ∧ mid.outside = scene.outside ∧
      (r.stage dir (.resource resources id) scene).1 = verdict (r.factory.fromFile path mid).1 := by
  have hacquire : (r.stager.acquire dir scene).1 = .ok ⟨path⟩ := by
    rw [Stager.fst_acquire, hfree]
  have houtcome : Source.outcome r.stager path (.resource resources id) = .ok bytes.length :=
    (Stager.resourceOutcome_eq_ok_iff resources id _).mpr ⟨hbuffer, bytes, hbytes, rfl⟩
  obtain ⟨place, held, mid, hmid, hheld, heq⟩ := buildFrom_of_filled hacquire houtcome
  obtain rfl : bytes = held := Option.some.inj (hbytes.symm.trans hheld)
  obtain ⟨notes, hmade⟩ := r.factory.construct_eq (.resource resources id) ⟨path⟩ mid
  -- Putting the call on record leaves the files, so the factory finds the bytes of the resource.
  refine ⟨{ mid with calls := mid.calls ++ [.buildFile path (mid.files.read path).toOption] },
    hmid.read, hmid.outside, ?_⟩
  rw [stage, heq, hmade, Factory.build_apply]
  exact mapError_eq_verdict _

theorem stage_of_bytes {view : τ → α} {parse : Bytes → Except TypefaceFault α} {bytes : Bytes}
    (hparse : r.factory.Parses view parse) (hadmitted : r.stager.Admitted dir scene.files)
    (hbuffer : r.stager.CanBuffer) (hbytes : resources.bytes? id = some bytes) :
    (r.stage dir (.resource resources id) scene).1.map view = verdict (parse bytes) := by
  obtain ⟨path, hfree⟩ := Stager.exists_firstFree_of_admitted hadmitted
  obtain ⟨mid, hread, -, hmade⟩ := stage_of_filled hfree hbuffer hbytes
  rw [hmade, map_verdict, hparse path bytes mid hread]

theorem fst_buildAndRemember {package : String} (h : resources.packageName id = .ok package)
    (style : Style) (build : Act σ (Except (Halt TypefaceFault) τ)) (desk : Desk σ τ) :
    (buildAndRemember resources id style build desk).1 = (build (desk.scene.asked id)).1 := by
  cases hbuild : (build (desk.scene.asked id)).1 with
  | error why => rw [buildAndRemember_of_fault h hbuild]
  | ok typeface =>
    obtain ⟨notes, hmade⟩ := buildAndRemember_of_built style h hbuild
    rw [hmade]

end Resolver

/-! ## The same result everywhere -/

/-- Nothing keeps the resource from being staged in the directory: its package is known, its stream
delivers these bytes to the end, and there is a name and a buffer for them. -/
structure Stageable (s : Stager) (dir : Path) (resources : Resources) (id : ResourceId)
    (bytes : Bytes) (files : Store) : Prop where
  known : ∃ package, resources.packageName id = .ok package
  delivers : ∃ stream, resources.openRaw id = .ok stream ∧ stream.content = (bytes, none)
  canBuffer : s.CanBuffer
  admitted : s.Admitted dir files

namespace Resolver

theorem createFromFile_of_stageable {r : Resolver σ τ} {view : τ → α}
    {parse : Bytes → Except TypefaceFault α} (hparse : r.factory.Parses view parse) {dir : Path}
    {resources : Resources} {id : ResourceId} (style : Style) {desk : Desk σ τ} {bytes : Bytes}
    (h : Stageable r.stager dir resources id bytes desk.scene.files) :
    (r.createFromFile dir resources id style desk).1.map view = verdict (parse bytes) := by
  obtain ⟨package, hpackage⟩ := h.known
  obtain ⟨stream, hopen, hcontent⟩ := h.delivers
  rw [createFromFile, fst_buildAndRemember hpackage, buildStaged_eq]
  exact stage_of_bytes hparse h.admitted h.canBuffer
    ((Resources.bytes?_eq_some_iff hopen bytes).mpr hcontent)

theorem createFromFile_fontData {r : Resolver σ FontData} (hfactory : r.factory = Factory.fontData)
    {dir : Path} {resources : Resources} {id : ResourceId} (style : Style) {desk : Desk σ FontData}
    {bytes : Bytes} (h : Stageable r.stager dir resources id bytes desk.scene.files) :
    (r.createFromFile dir resources id style desk).1 = verdict (FontData.ofBytes bytes) := by
  have hparse : r.factory.Parses (fun font => font) FontData.ofBytes :=
    hfactory ▸ Factory.parses_fontData
  exact (congrFun Except.map_id _).symm.trans (createFromFile_of_stageable hparse style h)

/-- **Staging is transparent.** A font file comes out as the factory parses the bytes of its
resource, so resolvers with one factory agree, whatever their settings, identities and directories
are and whatever lies there. A font keeps the bytes as they are, and is their first face. -/
theorem staging_is_transparent :
    (∀ (r : Resolver σ τ) (view : τ → α) (parse : Bytes → Except TypefaceFault α),
      r.factory.Parses view parse →
      ∀ (dir : Path) (resources : Resources) (id : ResourceId) (style : Style) (desk : Desk σ τ)
        (bytes : Bytes), Stageable r.stager dir resources id bytes desk.scene.files →
      (r.createFromFile dir resources id style desk).1.map view = verdict (parse bytes)) ∧
    (∀ (r r' : Resolver σ τ) (view : τ → α) (parse : Bytes → Except TypefaceFault α),
      r.factory.Parses view parse → r'.factory = r.factory →
      ∀ (dir dir' : Path) (resources : Resources) (id : ResourceId) (style : Style)
        (desk desk' : Desk σ τ) (bytes : Bytes),
      Stageable r.stager dir resources id bytes desk.scene.files →
      Stageable r'.stager dir' resources id bytes desk'.scene.files →
      (r'.createFromFile dir' resources id style desk').1.map view =
        (r.createFromFile dir resources id style desk).1.map view) ∧
    (∀ r : Resolver σ FontData, r.factory = Factory.fontData →
      ∀ (dir : Path) (resources : Resources) (id : ResourceId) (style : Style)
        (desk : Desk σ FontData) (bytes : Bytes),
      Stageable r.stager dir resources id bytes desk.scene.files →
      (r.createFromFile dir resources id style desk).1 = verdict (FontData.ofBytes bytes) ∧
        ∀ font, (r.createFromFile dir resources id style desk).1 = .ok font →
          FontData.ofBytes bytes = .ok font ∧ font.data = bytes ∧ font.face = 0) := by
  refine ⟨?_, ?_, ?_⟩
  · intro r view parse hparse dir resources id style desk bytes h
    exact createFromFile_of_stageable hparse style h
  · intro r r' view parse hparse hfactory dir dir' resources id style desk desk' bytes h h'
    have hparse' : r'.factory.Parses view parse := hfactory ▸ hparse
    exact (createFromFile_of_stageable hparse' style h').trans
      (createFromFile_of_stageable hparse style h).symm
  · intro r hfactory dir resources id style desk bytes h
    have hmade := createFromFile_fontData hfactory style h
    refine ⟨hmade, fun font hfont => ?_⟩
    rw [hmade, verdict_eq_ok_iff] at hfont
    exact ⟨hfont, FontData.data_face_of_ofFace hfont⟩

/-! ## A font in pieces -/

/-- Fonts staged by another thread, which copies byte by byte. -/
def carefulFonts : Resolver Nat FontData where
  factory := Factory.fontData
  strategy := .staged
  stager := ⟨{ stem := "tmp", maxAttempts := 2, chunkSize := 0 }, ⟨7, 4⟩⟩

def hastyFonts : Resolver Nat FontData where
  factory := Factory.fontData
  strategy := .direct
  stager := { identity := ⟨7, 3⟩ }

/-- A directory where the first name of `carefulFonts` is left over. -/
def clutteredDesk : Desk Nat FontData :=
  ⟨.new 2, { files := (Store.empty.addDirectory ["cache"]).addFile ["tmp7-4-0", "cache"],
             outside := 0 }⟩

def bareDesk : Desk Nat FontData := ⟨.new 1, { files := .empty, outside := 5 }⟩

/-- A font that comes in pieces, with interruptions, and with bytes after its end. -/
def piecemeal : Stream :=
  [.interrupted, .data ((bareFont 1).take 5), .interrupted, .interrupted,
    .data ((bareFont 1).drop 5), .data [], .data [9]]

theorem pieces_make_one_font :
    Stageable hastyFonts.stager ⟨"/"⟩ (bundle "a" piecemeal) 5 (bareFont 1) bareDesk.scene.files ∧
    Stageable carefulFonts.stager ⟨"/cache"⟩ (bundle "a" piecemeal) 5 (bareFont 1)
      clutteredDesk.scene.files ∧
    (carefulFonts.createFromFile ⟨"/cache"⟩ (bundle "a" piecemeal) 5 .bold clutteredDesk).1.map
        (fun font => font) =
      (hastyFonts.createFromFile ⟨"/"⟩ (bundle "a" piecemeal) 5 .bold bareDesk).1.map
        (fun font => font) ∧
    (carefulFonts.createFromFile ⟨"/cache"⟩ (bundle "a" piecemeal) 5 .bold clutteredDesk).1 =
      .ok ⟨bareFont 1, 0, 1000⟩ := by
  have hcontent : piecemeal.content = (bareFont 1, none) := by decide
  have hhasty : Stageable hastyFonts.stager ⟨"/"⟩ (bundle "a" piecemeal) 5 (bareFont 1)
      bareDesk.scene.files :=
    ⟨⟨"a", rfl⟩, ⟨piecemeal, rfl, hcontent⟩, by decide, 0, by decide, _, rfl⟩
  have hcareful : Stageable carefulFonts.stager ⟨"/cache"⟩ (bundle "a" piecemeal) 5 (bareFont 1)
      clutteredDesk.scene.files :=
    ⟨⟨"a", rfl⟩, ⟨piecemeal, rfl, hcontent⟩, by decide, 1, by decide, _, rfl⟩
  have htransparent := @staging_is_transparent Nat FontData FontData
  refine ⟨hhasty, hcareful, ?_, ?_⟩
  · exact htransparent.2.1 hastyFonts carefulFonts (fun font => font) FontData.ofBytes
      Factory.parses_fontData rfl ⟨"/"⟩ ⟨"/cache"⟩ _ 5 .bold bareDesk clutteredDesk _ hhasty hcareful
  · have hfont : verdict (FontData.ofBytes (bareFont 1)) = .ok ⟨bareFont 1, 0, 1000⟩ := by decide
    rw [← hfont]
    exact (htransparent.2.2 carefulFonts rfl ⟨"/cache"⟩ _ 5 .bold clutteredDesk _ hcareful).1

end Resolver

end Typecase
