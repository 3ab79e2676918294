import Typecase.Cache

/-!
# What each call does to a cache

`keys` says which keys a cache holds, newest first. One lemma for each call and each of the things
that can be seen after it, and then the same for lists of calls.
-/

namespace Typecase.Cache

variable {κ ν : Type} [DecidableEq κ]

/-! ## Keys -/

def keys (c : Cache κ ν) : List κ := c.entries.map (·.1)

theorem contains_iff (c : Cache κ ν) (k : κ) : c.contains k = true ↔ k ∈ c.keys := by
  simp [contains, keys]

theorem lookup_eq_none_iff (c : Cache κ ν) (k : κ) : c.entries.lookup k = none ↔ k ∉ c.keys := by
  simp only [List.lookup_eq_none_iff, keys, List.mem_map, not_exists, not_and, bne_iff_ne]
  exact forall₂_congr fun e _ => ne_comm

theorem mem_of_lookup {c : Cache κ ν} {k : κ} {v : ν} (h : c.entries.lookup k = some v) :
    (k, v) ∈ c.entries := by
  obtain ⟨before, after, hsplit, -⟩ := List.lookup_eq_some_iff.mp h
  simp [hsplit]

theorem keys_without (c : Cache κ ν) (k : κ) :
    (c.without k).map (·.1) = c.keys.filter (· != k) := by
  simp [without, keys, List.filter_map, Function.comp_def]

theorem exists_lookup {c : Cache κ ν} {k : κ} (h : k ∈ c.keys) :
    ∃ v, c.entries.lookup k = some v := by
  cases hl : c.entries.lookup k with
  | none => exact absurd h ((lookup_eq_none_iff c k).mp hl)
  | some v => exact ⟨v, rfl⟩

/-! ## Looking up -/

theorem get_fst (c : Cache κ ν) (k : κ) : (c.get k).1 = c.entries.lookup k := by
  unfold get
  split <;> simp [*]

theorem get_of_lookup {c : Cache κ ν} {k : κ} {v : ν} (h : c.entries.lookup k = some v) :
    c.get k = (some v, { c with entries := (k, v) :: c.without k, hits := c.hits + 1 }) := by
  simp [get, h]

theorem get_of_missing {c : Cache κ ν} {k : κ} (h : c.entries.lookup k = none) :
    c.get k = (none, { c with misses := c.misses + 1 }) := by
  simp [get, h]

theorem entries_get (c : Cache κ ν) (k : κ) :
    (c.get k).2.entries =
      ((c.entries.lookup k).map fun v => (k, v) :: c.without k).getD c.entries := by
  unfold get
  split <;> simp [*]

theorem isSome_get (c : Cache κ ν) (k : κ) : (c.get k).1.isSome = true ↔ k ∈ c.keys := by
  rw [get_fst, Option.isSome_iff_ne_none, ne_eq, lookup_eq_none_iff, Decidable.not_not]

theorem keys_get_of_mem {c : Cache κ ν} {k : κ} (h : k ∈ c.keys) :
    (c.get k).2.keys = k :: c.keys.filter (· != k) := by
  obtain ⟨v, hv⟩ := exists_lookup h
  rw [get_of_lookup hv, keys, List.map_cons, keys_without]

theorem keys_get_of_not_mem {c : Cache κ ν} {k : κ} (h : k ∉ c.keys) :
    (c.get k).2.keys = c.keys := by
  rw [get_of_missing ((lookup_eq_none_iff c k).mpr h)]
  rfl

theorem capacity_get (c : Cache κ ν) (k : κ) : (c.get k).2.capacity = c.capacity := by
  unfold get
  split <;> rfl

/-! ## Pushing -/

/-- What is left of the older entries when a pair is pushed. -/
def older (c : Cache κ ν) (k : κ) : List (κ × ν) :=
  if c.contains k then c.without k
  else if c.size < c.capacity then c.entries else c.entries.dropLast

theorem push_of_lookup {c : Cache κ ν} {k : κ} {old : ν} (h : c.entries.lookup k = some old)
    (v : ν) :
    c.push k v = (some (k, old), { c with entries := (k, v) :: c.without k }) := by
  simp [push, h]

theorem push_of_room {c : Cache κ ν} {k : κ} (h : k ∉ c.keys) (hroom : c.size < c.capacity)
    (v : ν) : c.push k v = (none, { c with entries := (k, v) :: c.entries }) := by
  simp [push, (lookup_eq_none_iff c k).mpr h, hroom]

theorem push_of_full {c : Cache κ ν} {k : κ} (h : k ∉ c.keys) (hfull : ¬ c.size < c.capacity)
    (v : ν) :
    c.push k v = (c.entries.getLast?, { c with entries := (k, v) :: c.entries.dropLast }) := by
  simp [push, (lookup_eq_none_iff c k).mpr h, hfull]

theorem push_snd (c : Cache κ ν) (k : κ) (v : ν) :
    (c.push k v).2 = { c with entries := (k, v) :: c.older k } := by
  by_cases hk : k ∈ c.keys
  · obtain ⟨old, hold⟩ := exists_lookup hk
    rw [push_of_lookup hold, older, if_pos ((contains_iff c k).mpr hk)]
  · rw [older, if_neg (by rwa [contains_iff])]
    by_cases hroom : c.size < c.capacity
    · rw [push_of_room hk hroom, if_pos hroom]
    · rw [push_of_full hk hroom, if_neg hroom]

/-- A displaced pair either had the pushed key, or it was the oldest of a full cache. -/
theorem push_fst_eq_some_iff (c : Cache κ ν) (k : κ) (v : ν) (displaced : κ × ν) :
    (c.push k v).1 = some displaced ↔
      (displaced.1 = k ∧ c.entries.lookup k = some displaced.2) ∨
      (k ∉ c.keys ∧ ¬ c.size < c.capacity ∧ c.entries.getLast? = some displaced) := by
  by_cases hk : k ∈ c.keys
  · obtain ⟨old, hold⟩ := exists_lookup hk
    rw [push_of_lookup hold, hold]
    simp [hk, Prod.ext_iff, eq_comm]
  · rw [(lookup_eq_none_iff c k).mpr hk]
    by_cases hroom : c.size < c.capacity
    · simp [push_of_room hk hroom, hroom]
    · simp [push_of_full hk hroom, hk, hroom]

/-- The key of a displaced pair tells a replacement from an eviction. -/
theorem displaced_key_eq_iff {c : Cache κ ν} {k : κ} {v : ν} {displaced : κ × ν}
    (h : (c.push k v).1 = some displaced) : displaced.1 = k ↔ k ∈ c.keys := by
  rcases (push_fst_eq_some_iff c k v displaced).mp h with ⟨heq, hlookup⟩ | ⟨hk, -, hlast⟩
  · have hmem : k ∈ c.keys := List.mem_map_of_mem (mem_of_lookup hlookup)
    exact iff_of_true heq hmem
  · refine iff_of_false ?_ hk
    rintro rfl
    exact hk (List.mem_map_of_mem (List.mem_of_getLast? hlast))

/-! ## Storing -/

theorem insert_eq (c : Cache κ ν) (k : κ) (v : ν) :
    let evicted := ((c.push k v).1.map (·.1)).filter (· != k)
    c.insert k v = (evicted, { c with
      entries := (k, v) :: c.older k
      insertions := c.insertions + 1
      evictions := c.evictions + if evicted.isSome then 1 else 0 }) := by
  intro evicted
  unfold insert
  rcases hpush : c.push k v with ⟨displaced, after⟩
  have hafter : after = { c with entries := (k, v) :: c.older k } := by
    rw [← push_snd c k v, hpush]
  subst hafter
  cases displaced with
  | none =>
    have hevicted : evicted = none := by simp [evicted, hpush]
    simp [hevicted]
  | some old =>
    by_cases heq : old.1 = k
    · have hevicted : evicted = none := by simp [evicted, hpush, heq]
      simp [heq, hevicted]
    · have hevicted : evicted = some old.1 := by simp [evicted, hpush, heq]
      simp [heq, hevicted]

/-- The key that is reported is the oldest of a full cache that has to take a new one. -/
theorem insert_fst (c : Cache κ ν) (k : κ) (v : ν) :
    (c.insert k v).1 = if k ∈ c.keys ∨ c.size < c.capacity then none else c.keys.getLast? := by
  rw [insert_eq]
  by_cases hk : k ∈ c.keys
  · obtain ⟨old, hold⟩ := exists_lookup hk
    simp [push_of_lookup hold, hk]
  by_cases hroom : c.size < c.capacity
  · simp [push_of_room hk hroom, hroom]
  have hlast : c.keys.getLast? = (c.push k v).1.map (·.1) := by
    rw [push_of_full hk hroom, keys, List.getLast?_map]
  rw [if_neg (not_or.mpr ⟨hk, hroom⟩), hlast]
  cases hdisplaced : (c.push k v).1 with
  | none => rfl
  | some displaced =>
    have hne : displaced.1 ≠ k := mt (displaced_key_eq_iff hdisplaced).mp hk
    simp [hne]

theorem insert_snd (c : Cache κ ν) (k : κ) (v : ν) :
    (c.insert k v).2 = { c with
      entries := (k, v) :: c.older k
      insertions := c.insertions + 1
      evictions := c.evictions + if (c.insert k v).1.isSome then 1 else 0 } := by
  rw [insert_eq]

theorem entries_insert (c : Cache κ ν) (k : κ) (v : ν) :
    (c.insert k v).2.entries = (k, v) :: c.older k := by
  rw [insert_snd]

theorem keys_insert_of_mem {c : Cache κ ν} {k : κ} (h : k ∈ c.keys) (v : ν) :
    (c.insert k v).2.keys = k :: c.keys.filter (· != k) := by
  rw [keys, entries_insert, older, if_pos ((contains_iff c k).mpr h), List.map_cons, keys_without]

theorem keys_insert_of_not_mem {c : Cache κ ν} {k : κ} (h : k ∉ c.keys) (v : ν) :
    (c.insert k v).2.keys =
      k :: if c.keys.length < c.capacity then c.keys else c.keys.dropLast := by
  rw [keys, entries_insert, older, if_neg (by rwa [contains_iff]), List.map_cons, size, keys,
    List.length_map]
  split <;> simp

theorem capacity_insert (c : Cache κ ν) (k : κ) (v : ν) :
    (c.insert k v).2.capacity = c.capacity := by
  rw [insert_snd]

theorem without_of_not_mem {c : Cache κ ν} {k : κ} (h : k ∉ c.keys) : c.without k = c.entries := by
  apply List.filter_eq_self.mpr
  intro e he
  rw [bne_iff_ne]
  rintro rfl
  exact h (List.mem_map_of_mem he)

theorem older_subset (c : Cache κ ν) (k : κ) : c.older k ⊆ c.without k := by
  unfold older
  split
  · exact List.Subset.refl _
  · rename_i h
    rw [contains_iff] at h
    rw [without_of_not_mem h]
    split
    · exact List.Subset.refl _
    · exact List.dropLast_subset _

theorem ne_of_mem_older {c : Cache κ ν} {k : κ} {e : κ × ν} (h : e ∈ c.older k) :
    e ∈ c.entries ∧ e.1 ≠ k := by
  have := older_subset c k h
  rwa [without, List.mem_filter, bne_iff_ne] at this

/-! ## One call of any kind -/

theorem capacity_step (c : Cache κ ν) (op : Op κ ν) : (c.step op).2.capacity = c.capacity := by
  cases op with
  | get k => exact capacity_get c k
  | contains k => rfl
  | insert k v => exact capacity_insert c k v
  | inspect => rfl

/-! ## Lists of calls -/

theorem run_append (c : Cache κ ν) (ops ops' : List (Op κ ν)) :
    c.run (ops ++ ops') =
      ((c.run ops).1 ++ ((c.run ops).2.run ops').1, ((c.run ops).2.run ops').2) := by
  induction ops generalizing c with
  | nil => rfl
  | cons first ops ih => simp [run, ih]

theorem run_snoc (c : Cache κ ν) (ops : List (Op κ ν)) (op : Op κ ν) :
    c.run (ops ++ [op]) =
      ((c.run ops).1 ++ [((c.run ops).2.step op).1], ((c.run ops).2.step op).2) :=
  run_append c ops [op]

theorem length_run (c : Cache κ ν) (ops : List (Op κ ν)) : (c.run ops).1.length = ops.length := by
  induction ops generalizing c with
  | nil => rfl
  | cons first ops ih => simp [run, ih]

theorem capacity_run (c : Cache κ ν) (ops : List (Op κ ν)) :
    (c.run ops).2.capacity = c.capacity := by
  induction ops generalizing c with
  | nil => rfl
  | cons first ops ih => exact (ih _).trans (capacity_step c first)

end Typecase.Cache
