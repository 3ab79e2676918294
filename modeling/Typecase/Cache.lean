/-!
# The cache

A cache of fixed capacity that forgets the entry that was not used for the longest time. Its
entries stand in the order of their last use, newest first. Looking a key up is a use if the key
is there, and storing a value under it always is one. Asking whether a key is there is not.

The counters are true counts. None of them grows by more than one in a call, so counters of 64 bits
show the same as long as there are fewer than 2^64 calls.
-/

namespace Typecase

structure Cache (κ ν : Type) where
  capacity : Nat
  entries : List (κ × ν) := []
  hits : Nat := 0
  misses : Nat := 0
  insertions : Nat := 0
  evictions : Nat := 0
  deriving DecidableEq, Repr

namespace Cache

variable {κ ν : Type} [BEq κ]

/-- An empty cache. It holds at least one entry, whatever was asked for. -/
def new (capacity : Nat) : Cache κ ν where
  capacity := max capacity 1

def size (c : Cache κ ν) : Nat := c.entries.length

def without (c : Cache κ ν) (k : κ) : List (κ × ν) := c.entries.filter (·.1 != k)

def contains (c : Cache κ ν) (k : κ) : Bool := c.entries.any (·.1 == k)

/-- Looks a key up. A key that is there becomes the newest. -/
def get (c : Cache κ ν) (k : κ) : Option ν × Cache κ ν :=
  match c.entries.lookup k with
  | some v => (some v, { c with entries := (k, v) :: c.without k, hits := c.hits + 1 })
  | none => (none, { c with misses := c.misses + 1 })

/-- Makes a pair the newest. It takes the place of the pair that its key had. If there is none, and
no room, the oldest pair goes. What was displaced, in the one way or the other, is returned. -/
def push (c : Cache κ ν) (k : κ) (v : ν) : Option (κ × ν) × Cache κ ν :=
  match c.entries.lookup k with
  | some old => (some (k, old), { c with entries := (k, v) :: c.without k })
  | none =>
    if c.size < c.capacity then (none, { c with entries := (k, v) :: c.entries })
    else (c.entries.getLast?, { c with entries := (k, v) :: c.entries.dropLast })

/-- Stores a value under a key and makes it the newest. A displaced pair with another key has been
evicted, and its key is returned. -/
def insert (c : Cache κ ν) (k : κ) (v : ν) : Option κ × Cache κ ν :=
  let (displaced, c) := c.push k v
  let c := { c with insertions := c.insertions + 1 }
  match displaced with
  | none => (none, c)
  | some (old, _) =>
    if old != k then (some old, { c with evictions := c.evictions + 1 }) else (none, c)

/-- The part of all lookups that found something. Zero before the first lookup. -/
def hitRate (c : Cache κ ν) : Float :=
  let requests := c.hits + c.misses
  if requests == 0 then 0.0 else Float.ofNat c.hits / Float.ofNat requests

/-! ## Calls as data -/

inductive Op (κ ν : Type) where
  | get (key : κ)
  | contains (key : κ)
  | insert (key : κ) (value : ν)
  /-- Looks at size, capacity and counters. -/
  | inspect
  deriving DecidableEq, Repr

inductive Answer (κ ν : Type) where
  | found (value : Option ν)
  | present (yes : Bool)
  | inserted (evicted : Option κ)
  | inspected
  deriving DecidableEq, Repr

def step (c : Cache κ ν) : Op κ ν → Answer κ ν × Cache κ ν
  | .get k => let (v, c) := c.get k; (.found v, c)
  | .contains k => (.present (c.contains k), c)
  | .insert k v => let (old, c) := c.insert k v; (.inserted old, c)
  | .inspect => (.inspected, c)

def run (c : Cache κ ν) : List (Op κ ν) → List (Answer κ ν) × Cache κ ν
  | [] => ([], c)
  | op :: ops =>
    let (answer, c) := c.step op
    let (answers, c) := c.run ops
    (answer :: answers, c)

end Cache

end Typecase
