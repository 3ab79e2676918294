import Mathlib.Data.List.Forall2
import Typecase.Proofs.Cache.Size

/-!
# A larger cache does no worse

Two caches get the same calls, and one has more room. The larger one may find a key that the smaller
one has lost, and then their orders differ. But all that the smaller one holds stands in the larger
one too, in the same order, so the oldest entry of the smaller one goes no later than in the larger
one.
-/

namespace Typecase.Cache

variable {κ ν : Type}

/-! ## Smaller and larger -/

/-- What the smaller cache holds stands in the larger one, in the same order. As long as the smaller
one has room, both hold the same. The larger one has counted no fewer hits, and no more misses and
evictions. -/
structure Within (small large : Cache κ ν) : Prop where
  entries : small.entries.Sublist large.entries
  nodup : large.keys.Nodup
  pos : 0 < small.capacity
  capacity : small.capacity ≤ large.capacity
  room : small.size < small.capacity → small.size = large.size
  hits : small.hits ≤ large.hits
  misses : large.misses ≤ small.misses
  insertions : large.insertions = small.insertions
  evictions : large.evictions ≤ small.evictions

theorem within_new {n m : Nat} (h : n ≤ m) : (new n : Cache κ ν).Within (new m) where
  entries := .refl _
  nodup := by simp [new, keys]
  pos := by simp only [new]; omega
  capacity := by simp only [new]; omega
  room _ := rfl
  hits := Nat.le_refl 0
  misses := Nat.le_refl 0
  insertions := rfl
  evictions := Nat.le_refl 0

namespace Within

variable {small large : Cache κ ν}

theorem keys (h : small.Within large) : small.keys.Sublist large.keys := h.entries.map _

theorem nodup_small (h : small.Within large) : small.keys.Nodup := h.nodup.sublist h.keys

theorem pos_large (h : small.Within large) : 0 < large.capacity :=
  Nat.lt_of_lt_of_le h.pos h.capacity

theorem size_le (h : small.Within large) : small.size ≤ large.size := h.entries.length_le

/-- A key that only the larger cache holds shows that the smaller one is full. -/
theorem full_of_mem (h : small.Within large) {k : κ} (hsmall : k ∉ small.keys)
    (hlarge : k ∈ large.keys) : ¬ small.size < small.capacity := by
  intro hroom
  have hlen : small.keys.length = large.keys.length := by
    rw [← size_eq_length_keys, ← size_eq_length_keys]
    exact h.room hroom
  rw [h.keys.eq_of_length hlen] at hsmall
  exact hsmall hlarge

theorem larger_has_room (h : small.Within large) (hroom : small.size < small.capacity) :
    large.size < large.capacity := by
  have hsize := h.room hroom
  have hcapacity := h.capacity
  omega

variable [DecidableEq κ]

theorem lookup (h : small.Within large) {k : κ} {v : ν} (hv : small.entries.lookup k = some v) :
    large.entries.lookup k = some v := by
  rw [lookup_eq_some_iff h.nodup]
  exact h.entries.subset (mem_of_lookup hv)

theorem lookup_none (h : small.Within large) {k : κ} (hnone : large.entries.lookup k = none) :
    small.entries.lookup k = none := by
  rw [lookup_eq_none_iff] at hnone ⊢
  exact fun hmem => hnone (h.keys.subset hmem)

/-! ## Looking up -/

theorem get (h : small.Within large) (k : κ) : (small.get k).2.Within (large.get k).2 := by
  have hnodup := nodup_get h.nodup k
  have hroom : (small.get k).2.size < (small.get k).2.capacity →
      (small.get k).2.size = (large.get k).2.size := by
    rw [size_get h.nodup_small, size_get h.nodup, capacity_get]
    exact h.room
  cases hlarge : large.entries.lookup k with
  | none =>
    rw [get_of_missing hlarge, get_of_missing (h.lookup_none hlarge)] at *
    exact ⟨h.entries, hnodup, h.pos, h.capacity, hroom, h.hits, Nat.succ_le_succ h.misses,
      h.insertions, h.evictions⟩
  | some v =>
    have hrest : (small.without k).Sublist (large.without k) := h.entries.filter _
    cases hsmall : small.entries.lookup k with
    | none =>
      -- Only the larger cache moves the key to the front, and the smaller one does not hold it.
      have hkey : k ∉ small.keys := (lookup_eq_none_iff small k).mp hsmall
      rw [without_of_not_mem hkey] at hrest
      rw [get_of_lookup hlarge, get_of_missing hsmall] at *
      exact ⟨hrest.cons _, hnodup, h.pos, h.capacity, hroom, Nat.le_succ_of_le h.hits,
        Nat.le_succ_of_le h.misses, h.insertions, h.evictions⟩
    | some v' =>
      obtain rfl : v = v' := Option.some.inj (hlarge.symm.trans (h.lookup hsmall))
      rw [get_of_lookup hlarge, get_of_lookup hsmall] at *
      exact ⟨hrest.cons_cons _, hnodup, h.pos, h.capacity, hroom, Nat.succ_le_succ h.hits,
        h.misses, h.insertions, h.evictions⟩

/-! ## Storing -/

theorem dropLast_sublist {α : Type} {l l' : List α} (h : l.Sublist l') :
    l.dropLast.Sublist l'.dropLast := by
  have htails := h.reverse.tail.reverse
  simpa using htails

theorem older (h : small.Within large) (k : κ) : (small.older k).Sublist (large.older k) := by
  unfold Cache.older
  simp only [contains_iff]
  by_cases hsmall : k ∈ small.keys
  · rw [if_pos hsmall, if_pos (h.keys.subset hsmall)]
    exact h.entries.filter _
  rw [if_neg hsmall]
  by_cases hlarge : k ∈ large.keys
  · rw [if_pos hlarge, if_neg (h.full_of_mem hsmall hlarge)]
    have hrest : (small.without k).Sublist (large.without k) := h.entries.filter _
    rw [without_of_not_mem hsmall] at hrest
    exact (List.dropLast_sublist _).trans hrest
  rw [if_neg hlarge]
  by_cases hroom : small.size < small.capacity
  · rw [if_pos hroom, if_pos (h.larger_has_room hroom)]
    exact h.entries
  rw [if_neg hroom]
  split
  · exact (List.dropLast_sublist _).trans h.entries
  · exact dropLast_sublist h.entries

theorem room_insert (h : small.Within large) (k : κ) (v : ν) :
    (small.insert k v).2.size < (small.insert k v).2.capacity →
      (small.insert k v).2.size = (large.insert k v).2.size := by
  have hroom := h.room
  rw [capacity_insert]
  by_cases hsmall : k ∈ small.keys
  · rw [size_insert_of_mem h.nodup_small hsmall, size_insert_of_mem h.nodup (h.keys.subset hsmall)]
    exact hroom
  rw [size_insert_of_not_mem hsmall h.pos]
  split_ifs with hsize
  · have hlarge : k ∉ large.keys := fun hmem => h.full_of_mem hsmall hmem hsize
    rw [size_insert_of_not_mem hlarge h.pos_large, if_pos (h.larger_has_room hsize), hroom hsize]
    exact fun _ => rfl
  · exact fun hlt => absurd hlt hsize

theorem evictions_insert (h : small.Within large) (k : κ) (v : ν) :
    (large.insert k v).2.evictions ≤ (small.insert k v).2.evictions := by
  have hevictions := h.evictions
  obtain ⟨-, -, -, hsmall⟩ := counters_insert h.pos k v
  obtain ⟨-, -, -, hlarge⟩ := counters_insert h.pos_large k v
  rw [hsmall, hlarge]
  split_ifs with hl hs
  · exact hevictions
  · omega
  -- What keeps the smaller cache from giving up an entry keeps the larger one from it too.
  · refine absurd ?_ hl
    rcases ‹k ∈ small.keys ∨ small.size < small.capacity› with hmem | hroom
    · exact .inl (h.keys.subset hmem)
    · exact .inr (h.larger_has_room hroom)
  · omega

theorem insert (h : small.Within large) (k : κ) (v : ν) :
    (small.insert k v).2.Within (large.insert k v).2 := by
  obtain ⟨hhits, hmisses, hinsertions, -⟩ := counters_insert h.pos k v
  obtain ⟨hhits', hmisses', hinsertions', -⟩ := counters_insert h.pos_large k v
  have hentries : (small.insert k v).2.entries.Sublist (large.insert k v).2.entries := by
    rw [entries_insert, entries_insert]
    exact (h.older k).cons_cons _
  refine ⟨hentries, nodup_insert h.nodup k v, ?_, ?_, h.room_insert k v, ?_, ?_, ?_,
    h.evictions_insert k v⟩
  · rw [capacity_insert]
    exact h.pos
  · rw [capacity_insert, capacity_insert]
    exact h.capacity
  · rw [hhits, hhits']
    exact h.hits
  · rw [hmisses, hmisses']
    exact h.misses
  · rw [hinsertions, hinsertions', h.insertions]

end Within

/-! ## Runs -/

variable [DecidableEq κ]

/-- What the one call has found, the other has found too. -/
def Answer.AsGood : Answer κ ν → Answer κ ν → Prop
  | .found (some v), other => other = .found (some v)
  | .present true, other => other = .present true
  | _, _ => True

theorem Within.step {small large : Cache κ ν} (h : small.Within large) (op : Op κ ν) :
    (small.step op).1.AsGood (large.step op).1 ∧ (small.step op).2.Within (large.step op).2 := by
  cases op with
  | get k =>
    refine ⟨?_, h.get k⟩
    simp only [Cache.step, get_fst]
    cases hv : small.entries.lookup k with
    | none => trivial
    | some v =>
      rw [h.lookup hv]
      rfl
  | contains k =>
    refine ⟨?_, h⟩
    simp only [Cache.step]
    cases hk : small.contains k with
    | false => trivial
    | true =>
      have hlarge : large.contains k = true := by
        rw [contains_iff] at hk ⊢
        exact h.keys.subset hk
      rw [hlarge]
      rfl
  | insert k v => exact ⟨trivial, h.insert k v⟩
  | inspect => exact ⟨trivial, h⟩

theorem Within.run {small large : Cache κ ν} (h : small.Within large) (ops : List (Op κ ν)) :
    List.Forall₂ Answer.AsGood (small.run ops).1 (large.run ops).1 ∧
      (small.run ops).2.Within (large.run ops).2 := by
  induction ops generalizing small large with
  | nil => exact ⟨.nil, h⟩
  | cons op ops ih =>
    obtain ⟨hanswer, hstep⟩ := h.step op
    obtain ⟨hanswers, hrun⟩ := ih hstep
    exact ⟨.cons hanswer hanswers, hrun⟩

/-- **More room does no harm.** After the same calls a larger cache holds all that a smaller one
does, with the same values. Each look-up that succeeds on the smaller one has succeeded on the
larger one with the same answer. So the larger one has no fewer hits and entries, no more misses and
evictions, and as many insertions. The calls may end anywhere, so this is so at each point of a
run. The counters are true counts. None of them grows by more than one in a call, so counters of
64 bits show the same as long as there are fewer than 2^64 calls. -/
theorem larger_does_no_worse {n m : Nat} (h : n ≤ m) (ops : List (Op κ ν)) :
    let small := (new n : Cache κ ν).run ops
    let large := (new m : Cache κ ν).run ops
    (∀ k, (small.2.contains k = true → large.2.contains k = true) ∧
      ∀ v, (small.2.get k).1 = some v → (large.2.get k).1 = some v) ∧
    List.Forall₂ Answer.AsGood small.1 large.1 ∧
    small.2.hits ≤ large.2.hits ∧ large.2.misses ≤ small.2.misses ∧
    small.2.size ≤ large.2.size ∧ large.2.evictions ≤ small.2.evictions ∧
    large.2.insertions = small.2.insertions := by
  intro small large
  have hrun := (within_new (κ := κ) (ν := ν) h).run ops
  have hwithin : small.2.Within large.2 := hrun.2
  refine ⟨fun k => ⟨?_, ?_⟩, hrun.1, hwithin.hits, hwithin.misses, hwithin.size_le,
    hwithin.evictions, hwithin.insertions⟩
  · rw [contains_iff, contains_iff]
    exact fun hmem => hwithin.keys.subset hmem
  · intro v hv
    rw [get_fst] at hv ⊢
    exact hwithin.lookup hv

/-- With room for three, key 1 is found where room for two has lost it, and it gets ahead of 3
and 4. -/
def crowdedRun : List (Op Nat String) :=
  [.insert 1 "a", .insert 2 "b", .insert 3 "c", .get 1, .insert 4 "d", .get 3, .get 1, .contains 2]

theorem crowdedRun_with_more_room :
    let small := (new 2 : Cache Nat String).run crowdedRun
    let large := (new 3 : Cache Nat String).run crowdedRun
    2 ≤ 3 ∧ small.2.keys = [3, 4] ∧ large.2.keys = [1, 3, 4] ∧
      List.Forall₂ Answer.AsGood small.1 large.1 ∧
      small.2.hits ≤ large.2.hits ∧ large.2.misses ≤ small.2.misses ∧
      small.2.size ≤ large.2.size ∧ large.2.evictions ≤ small.2.evictions ∧
      large.2.insertions = small.2.insertions := by
  have hlarger := larger_does_no_worse (n := 2) (m := 3) (by decide) crowdedRun
  exact ⟨by decide, by decide, by decide, hlarger.2⟩

end Typecase.Cache
