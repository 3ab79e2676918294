import Mathlib.Data.List.Infix
import Typecase.Fault

/-!
# The root of a fault

On its way up a fault is wrapped, unwrapped and put into words, until there is but a message to
show. Whatever was done to it, the message ends with what went wrong first.
-/

namespace Typecase

/-! ## Endings -/

/-- Nothing in `text` comes after `tail`. -/
def EndsWith (text tail : String) : Prop := tail.toList <:+ text.toList

namespace EndsWith

@[refl] theorem refl (text : String) : EndsWith text text := List.suffix_refl _

theorem of_eq {text tail : String} (h : text = tail) : EndsWith text tail := h ▸ refl _

theorem trans {text middle tail : String} (h : EndsWith text middle)
    (h' : EndsWith middle tail) : EndsWith text tail :=
  List.IsSuffix.trans h' h

theorem append (lead tail : String) : EndsWith (lead ++ tail) tail := by
  unfold EndsWith
  rw [String.toList_append]
  exact List.suffix_append _ _

/-- More words in front do not change the end. -/
theorem prepend {text tail : String} (lead : String) (h : EndsWith text tail) :
    EndsWith (lead ++ text) tail :=
  (append lead text).trans h

end EndsWith

/-! ## What went wrong first -/

/-- What the file system said, if it was asked. Otherwise the words of the innermost fault. -/
def ResourceFault.root : ResourceFault → String
  | .io cause => cause.message
  | innermost => innermost.message

def StagingFault.root : StagingFault → String
  | .write _ cause => cause.message
  | .map _ cause => cause.message
  | .resource cause => cause.root
  | innermost => innermost.message

def TypefaceFault.root : TypefaceFault → String
  | .staging cause => cause.root
  | .io cause => cause.message
  | innermost => innermost.message

/-- How a message, the causes beneath it and the root belong together: a fault speaks for itself,
or it puts words in front of its cause's. -/
inductive Told : String → List String → String → Prop
  | innermost (text : String) : Told text [] text
  | wrapped {text : String} {causes : List String} {root : String} (lead : String)
      (cause : Told text causes root) : Told (lead ++ text) (text :: causes) root

namespace Told

variable {text root : String} {causes : List String}

theorem endsWith_root (h : Told text causes root) : EndsWith text root := by
  induction h with
  | innermost text => exact .refl text
  | wrapped lead _ ih => exact ih.prepend lead

theorem isChain (h : Told text causes root) : (text :: causes).IsChain EndsWith := by
  induction h with
  | innermost text => exact .singleton text
  | wrapped lead _ ih => exact .cons_cons (.append lead _) ih

theorem getLast_eq (h : Told text causes root) : (text :: causes).getLast? = some root := by
  induction h with
  | innermost text => rfl
  | wrapped lead _ ih => rw [List.getLast?_cons_cons, ih]

end Told

theorem ResourceFault.told (f : ResourceFault) : Told f.message f.causes f.root := by
  cases f with
  | notFound id => exact .innermost _
  | io cause => exact .wrapped _ (.innermost _)

theorem StagingFault.told (f : StagingFault) : Told f.message f.causes f.root := by
  cases f with
  | exhausted dir attempts => exact .innermost _
  | write path cause => exact .wrapped _ (.innermost _)
  | map path cause => exact .wrapped _ (.innermost _)
  | resource cause => exact .wrapped _ cause.told

theorem TypefaceFault.told (f : TypefaceFault) : Told f.message f.causes f.root := by
  cases f with
  | staging cause => exact .wrapped _ cause.told
  | io cause => exact .wrapped _ (.innermost _)
  | _ => exact .innermost _

/-! ## Layers -/

/-- Where a fault is noticed. -/
inductive Layer where
  | io
  | resource
  | staging
  | typeface

abbrev Layer.Fault : Layer → Type
  | io => IoFault
  | resource => ResourceFault
  | staging => StagingFault
  | typeface => TypefaceFault

namespace Layer.Fault

def message : {layer : Layer} → layer.Fault → String
  | io, f => IoFault.message f
  | resource, f => ResourceFault.message f
  | staging, f => StagingFault.message f
  | typeface, f => TypefaceFault.message f

def causes : {layer : Layer} → layer.Fault → List String
  | io, _ => []
  | resource, f => ResourceFault.causes f
  | staging, f => StagingFault.causes f
  | typeface, f => TypefaceFault.causes f

def root : {layer : Layer} → layer.Fault → String
  | io, f => IoFault.message f
  | resource, f => ResourceFault.root f
  | staging, f => StagingFault.root f
  | typeface, f => TypefaceFault.root f

/-- The message of a fault and of each one beneath it. -/
def texts {layer : Layer} (f : layer.Fault) : List String := f.message :: f.causes

end Layer.Fault

/-! ## Conversions -/

/-- The ways for a fault to be passed on. -/
inductive Conversion : Layer → Layer → Type where
  | ioToResource : Conversion .io .resource
  | ioToTypeface : Conversion .io .typeface
  | resourceToStaging : Conversion .resource .staging
  | resourceToTypeface : Conversion .resource .typeface
  | stagingToTypeface : Conversion .staging .typeface
  | stagingFailure : Conversion .staging .typeface
  | constructionFault : Conversion .typeface .typeface

def Conversion.apply : {source target : Layer} → Conversion source target →
    source.Fault → target.Fault
  | _, _, ioToResource => ResourceFault.io
  | _, _, ioToTypeface => TypefaceFault.io
  | _, _, resourceToStaging => StagingFault.resource
  | _, _, resourceToTypeface => TypefaceFault.ofResource
  | _, _, stagingToTypeface => TypefaceFault.staging
  | _, _, stagingFailure => TypefaceFault.ofStaging
  | _, _, constructionFault => TypefaceFault.ofConstruction

/-- Conversions one after the other, where each can take what the one before it gives. -/
inductive Route : Layer → Layer → Type where
  | nil {layer : Layer} : Route layer layer
  | cons {source middle target : Layer} (first : Conversion source middle)
      (rest : Route middle target) : Route source target

def Route.apply {source target : Layer} (route : Route source target) (f : source.Fault) :
    target.Fault :=
  match route with
  | nil => f
  | cons first rest => rest.apply (first.apply f)

/-! ## Nothing is lost on the way -/

namespace TypefaceFault

theorem root_ofResource (f : ResourceFault) : (ofResource f).root = f.root := by
  cases f <;> rfl

theorem root_ofStaging (f : StagingFault) : (ofStaging f).root = f.root := by
  cases f with
  | resource cause => exact root_ofResource cause
  | _ => rfl

/-- The message of what went wrong becomes the root, unless there is nothing left to put into
words. -/
theorem root_ofConstruction_endsWith (f : TypefaceFault) :
    EndsWith (ofConstruction f).root f.root := by
  cases f with
  | malformed reason => exact .refl _
  | _ => exact .prepend _ (told _).endsWith_root

theorem ofConstruction_idem (f : TypefaceFault) :
    ofConstruction (ofConstruction f) = ofConstruction f := by
  cases f <;> rfl

end TypefaceFault

theorem Layer.Fault.told : {layer : Layer} → (f : layer.Fault) → Told f.message f.causes f.root
  | .io, _ => .innermost _
  | .resource, f => ResourceFault.told f
  | .staging, f => StagingFault.told f
  | .typeface, f => TypefaceFault.told f

variable {source target : Layer}

/-- Only a construction fault has a new root, and the old one is at its end. -/
theorem Conversion.root_apply_endsWith (c : Conversion source target) (f : source.Fault) :
    EndsWith (c.apply f).root f.root := by
  cases c with
  | resourceToTypeface => exact .of_eq (TypefaceFault.root_ofResource f)
  | stagingFailure => exact .of_eq (TypefaceFault.root_ofStaging f)
  | constructionFault => exact TypefaceFault.root_ofConstruction_endsWith f
  | _ => exact .refl _

theorem Route.root_apply_endsWith (route : Route source target) (f : source.Fault) :
    EndsWith (route.apply f).root f.root := by
  induction route with
  | nil => exact .refl _
  | cons first rest ih => exact (ih (first.apply f)).trans (first.root_apply_endsWith f)

/-- **The message ends with what went wrong first.** This holds for every fault and all conversions
that it goes through. Each text on the way down to a fault's root ends with the next. A resource's
fault is the same whether or not it is wrapped on the way, and the second time that a font is found
to be at fault changes nothing. -/
theorem message_ends_with_root :
    (∀ (source target : Layer) (route : Route source target) (f : source.Fault),
      EndsWith (route.apply f).message f.root) ∧
    (∀ (layer : Layer) (f : layer.Fault),
      f.texts.IsChain EndsWith ∧ f.texts.getLast? = some f.root) ∧
    (∀ f, TypefaceFault.ofStaging (.resource f) = .ofResource f) ∧
    ∀ f, TypefaceFault.ofConstruction (.ofConstruction f) = .ofConstruction f := by
  refine ⟨?_, ?_, ?_, ?_⟩
  · intro source target route f
    exact (route.apply f).told.endsWith_root.trans (route.root_apply_endsWith f)
  · intro layer f
    exact ⟨f.told.isChain, f.told.getLast_eq⟩
  · intro f
    rfl
  · exact TypefaceFault.ofConstruction_idem

/-- A stream breaks off while its resource is staged, and that is taken for the font's fault. -/
example :
    ((Route.cons .ioToResource (.cons .resourceToStaging (.cons .stagingToTypeface
      (.cons .constructionFault .nil)))).apply (.reported "disk full")).message =
    "Malformed font data: Staging failed: Resource unavailable: Resource read failed: disk full" :=
  rfl

end Typecase
