import Typecase.Family
import Typecase.Files.Fault
import Typecase.Files.Path

/-!
# The file store

Names lead to bodies, and a body holds the bytes. A body outlives its name: a file that was removed
can still be read by whoever holds its body. New files get new bodies, so no other file changes.

A store grants whatever paths and names allow. A file can be created under each free name that
fits, in each directory that exists, and a file that exists can always be opened, read, mapped,
emptied, written to and removed. There are no permissions, no read-only directories, no quotas and
full disks, and no symbolic links. What is proved about files is proved for such a system.
-/

namespace Typecase

/-- A place in the tree: its names, innermost first. The root has none. -/
abbrev Place := List String

inductive Node where
  | directory
  | file (body : Nat)
  deriving DecidableEq, Repr

/-- What can be seen at a place. -/
inductive Sight where
  | directory
  | file (bytes : Bytes)
  deriving DecidableEq, Repr

structure Store where
  nodes : List (Place × Node) := []
  bodies : List Bytes := []
  file_lt : ∀ entry ∈ nodes, ∀ body, entry.2 = .file body → body < bodies.length := by simp

namespace Store

def empty : Store := {}

/-- The longest name a directory can hold, in bytes. -/
def maxNameBytes : Nat := 255

/-! ## Places -/

def look (s : Store) (place : Place) : Option Node :=
  if place = [] then some .directory else s.nodes.lookup place

def body (s : Store) (b : Nat) : Bytes := s.bodies.getD b []

def sight (s : Store) (place : Place) : Option Sight :=
  (s.look place).map fun
    | .directory => .directory
    | .file b => .file (s.body b)

/-- Adds an empty file. Its body is new. -/
def addFile (s : Store) (place : Place) : Store where
  nodes := (place, .file s.bodies.length) :: s.nodes
  bodies := s.bodies ++ [[]]
  file_lt := by
    intro entry mem b eq
    rcases List.mem_cons.1 mem with rfl | mem
    · cases eq; simp
    · have := s.file_lt entry mem b eq
      simp; omega

def addDirectory (s : Store) (place : Place) : Store :=
  { s with
    nodes := (place, .directory) :: s.nodes
    file_lt := by
      intro entry mem b eq
      rcases List.mem_cons.1 mem with rfl | mem
      · cases eq
      · exact s.file_lt entry mem b eq }

def keep (s : Store) (test : Place → Bool) : Store :=
  { s with
    nodes := s.nodes.filter (test ·.1)
    file_lt := fun entry mem => s.file_lt entry (List.mem_filter.1 mem).1 }

def remove (s : Store) (place : Place) : Store := s.keep (· != place)

def setBody (s : Store) (b : Nat) (bytes : Bytes) : Store :=
  { s with
    bodies := s.bodies.set b bytes
    file_lt := by
      intro entry mem b' eq
      simpa using s.file_lt entry mem b' eq }

/-! ## Walking a path -/

inductive Spot where
  /-- At a directory that the walk has passed through. -/
  | directory (place : Place)
  /-- At a name in a directory. Whether anything has that name is not known yet. -/
  | child (dir : Place) (name : String) (slashed : Bool)
  deriving DecidableEq, Repr

/-- Takes the steps one by one. All but the last name must be directories that exist. -/
def walk (s : Store) (place : Place) : List String → Except OsFault Spot
  | [] => .ok (.directory place)
  | step :: rest =>
    if step = "" ∨ step = "." then s.walk place rest
    else if step = ".." then s.walk place.tail rest
    else if rest.all (· == "") then .ok (.child place step (!rest.isEmpty))
    else if step.utf8ByteSize > maxNameBytes then .error .nameTooLong
    else match s.look (step :: place) with
      | none => .error .notFound
      | some (.file _) => .error .notDirectory
      | some .directory => s.walk (step :: place) rest

/-- The longest path that is looked at, in bytes. -/
def maxPathBytes : Nat := 4095

def refusal (p : Path) : Option OsFault :=
  if '\x00' ∈ p.text.toList then some .nulInPath
  else if p.text = "" then some .notFound
  else if p.text.utf8ByteSize > maxPathBytes then some .nameTooLong
  else none

/-- Finds the end of a path. Relative paths start at the root too. -/
def find (s : Store) (p : Path) : Except OsFault Spot :=
  match refusal p with
  | some why => .error why
  | none => s.walk [] p.steps

/-- What stands at the end of a path, if its name can stand anywhere. -/
def lookChild (s : Store) (dir : Place) (name : String) : Except OsFault (Option Node) :=
  if name.utf8ByteSize > maxNameBytes then .error .nameTooLong else .ok (s.look (name :: dir))

/-! ## What programs do -/

/-- Creates an empty file. Refuses if the name is taken, by whatever it may be. -/
def createNew (s : Store) (p : Path) : Except OsFault Store := do
  match ← s.find p with
  | .directory _ => .error .alreadyExists
  | .child _ _ true => .error .isDirectory
  | .child dir name false =>
    match ← s.lookChild dir name with
    | some _ => .error .alreadyExists
    | none => .ok (s.addFile (name :: dir))

/-- Opens a file for writing, emptied or new. Gives its body. -/
def openEmptied (s : Store) (p : Path) : Except OsFault (Nat × Store) := do
  match ← s.find p with
  | .directory _ => .error .isDirectory
  | .child _ _ true => .error .isDirectory
  | .child dir name false =>
    match ← s.lookChild dir name with
    | some .directory => .error .isDirectory
    | some (.file b) => .ok (b, s.setBody b [])
    | none => .ok (s.bodies.length, s.addFile (name :: dir))

def openExisting (s : Store) (p : Path) : Except OsFault Node := do
  match ← s.find p with
  | .directory _ => .ok .directory
  | .child dir name slashed =>
    match ← s.lookChild dir name with
    | none => .error .notFound
    | some .directory => .ok .directory
    | some (.file b) => if slashed then .error .notDirectory else .ok (.file b)

def read (s : Store) (p : Path) : Except OsFault Bytes := do
  match ← s.openExisting p with
  | .directory => .error .isDirectory
  | .file b => .ok (s.body b)

def unlink (s : Store) (p : Path) : Except OsFault Store := do
  match ← s.find p with
  | .directory _ => .error .isDirectory
  | .child dir name slashed =>
    match ← s.lookChild dir name with
    | none => .error .notFound
    | some .directory => .error .isDirectory
    | some (.file _) => if slashed then .error .notDirectory else .ok (s.remove (name :: dir))

def write (s : Store) (p : Path) (bytes : Bytes) : Except OsFault Store := do
  let (b, s) ← s.openEmptied p
  return s.setBody b bytes

/-- Makes the directories along the steps that do not exist yet. A fault ends this, and what was
made before it stays. -/
def makeSteps (s : Store) (place : Place) : List String → Option OsFault × Store
  | [] => (none, s)
  | step :: rest =>
    if step = "" ∨ step = "." then s.makeSteps place rest
    else if step = ".." then s.makeSteps place.tail rest
    else match s.lookChild place step with
      | .error why => (some why, s)
      | .ok (some (.file _)) =>
        (some (if rest.all (· == "") then .alreadyExists else .notDirectory), s)
      | .ok (some .directory) => s.makeSteps (step :: place) rest
      | .ok none => (s.addDirectory (step :: place)).makeSteps (step :: place) rest

def makeDirectories (s : Store) (p : Path) : Option OsFault × Store :=
  match refusal p with
  | some why => (some why, s)
  | none => s.makeSteps [] p.steps

/-- Takes away a file, or a directory with all that is in it. -/
def removeTree (s : Store) (p : Path) : Except OsFault Store := do
  match ← s.find p with
  | .directory place => .ok (s.keep (!place.isSuffixOf ·))
  | .child dir name slashed =>
    match ← s.lookChild dir name with
    | none => .error .notFound
    | some .directory => .ok (s.keep (!(name :: dir).isSuffixOf ·))
    | some (.file _) => if slashed then .error .notDirectory else .ok (s.remove (name :: dir))

/-- All that is below a place, by the names that lead there from it. -/
def listing (s : Store) (place : Place) : List (List String × Sight) :=
  s.nodes.filterMap fun (at_, _) =>
    if place.isSuffixOf at_ && at_ != place then
      (s.sight at_).map fun sight => ((at_.take (at_.length - place.length)).reverse, sight)
    else none

end Store

end Typecase
