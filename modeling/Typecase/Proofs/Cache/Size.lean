import Mathlib.Data.List.Nodup
import Typecase.Cache.Lemmas

/-!
# How many entries a cache holds

No key stands twice in a cache. So a look-up leaves its size, and so does storing under a key that
is there. A new key adds an entry as long as there is room, and replaces one from then on.
-/

namespace Typecase.Cache

variable {κ ν : Type}

theorem size_eq_length_keys (c : Cache κ ν) : c.size = c.keys.length := by
  simp [size, keys]

variable [DecidableEq κ]

/-! ## No key stands twice -/

theorem nodup_promoted {k : κ} {l : List κ} (h : l.Nodup) : (k :: l.filter (· != k)).Nodup := by
  rw [List.nodup_cons]
  exact ⟨by simp, h.filter _⟩

theorem nodup_get {c : Cache κ ν} (h : c.keys.Nodup) (k : κ) : (c.get k).2.keys.Nodup := by
  by_cases hk : k ∈ c.keys
  · rw [keys_get_of_mem hk]
    exact nodup_promoted h
  · rw [keys_get_of_not_mem hk]
    exact h

theorem nodup_insert {c : Cache κ ν} (h : c.keys.Nodup) (k : κ) (v : ν) :
    (c.insert k v).2.keys.Nodup := by
  by_cases hk : k ∈ c.keys
  · rw [keys_insert_of_mem hk]
    exact nodup_promoted h
  · rw [keys_insert_of_not_mem hk, List.nodup_cons]
    split
    · exact ⟨hk, h⟩
    · have hsub := List.dropLast_sublist c.keys
      exact ⟨fun hmem => hk (hsub.subset hmem), h.sublist hsub⟩

theorem lookup_eq_some_iff {c : Cache κ ν} (hc : c.keys.Nodup) (k : κ) (v : ν) :
    c.entries.lookup k = some v ↔ (k, v) ∈ c.entries := by
  constructor
  · exact mem_of_lookup
  · intro h
    obtain ⟨v', hv'⟩ := exists_lookup (List.mem_map_of_mem h : k ∈ c.keys)
    have heq : (k, v') = (k, v) := List.inj_on_of_nodup_map hc (mem_of_lookup hv') h rfl
    rw [hv', (Prod.mk.inj heq).2]

/-! ## The size after a call -/

theorem length_promoted {k : κ} {l : List κ} (hl : l.Nodup) (h : k ∈ l) :
    (k :: l.filter (· != k)).length = l.length := by
  have hpos := List.length_pos_of_mem h
  rw [← hl.erase_eq_filter, List.length_cons, List.length_erase_of_mem h]
  omega

theorem size_get {c : Cache κ ν} (hc : c.keys.Nodup) (k : κ) : (c.get k).2.size = c.size := by
  rw [size_eq_length_keys, size_eq_length_keys]
  by_cases h : k ∈ c.keys
  · rw [keys_get_of_mem h, length_promoted hc h]
  · rw [keys_get_of_not_mem h]

theorem size_insert_of_mem {c : Cache κ ν} {k : κ} (hc : c.keys.Nodup) (h : k ∈ c.keys) (v : ν) :
    (c.insert k v).2.size = c.size := by
  rw [size_eq_length_keys, size_eq_length_keys, keys_insert_of_mem h, length_promoted hc h]

theorem size_insert_of_not_mem {c : Cache κ ν} {k : κ} (h : k ∉ c.keys) (hpos : 0 < c.capacity)
    (v : ν) :
    (c.insert k v).2.size = if c.size < c.capacity then c.size + 1 else c.size := by
  simp only [size_eq_length_keys, keys_insert_of_not_mem h, List.length_cons]
  split_ifs with hroom
  · rfl
  · rw [List.length_dropLast]
    omega

/-! ## What the calls count -/

/-- A new key costs a full cache an eviction, and nothing else does. -/
theorem isSome_insert_fst {c : Cache κ ν} (hpos : 0 < c.capacity) (k : κ) (v : ν) :
    (c.insert k v).1.isSome = true ↔ ¬ (k ∈ c.keys ∨ c.size < c.capacity) := by
  rw [insert_fst]
  split_ifs with hkept
  · exact iff_of_false (by simp) (not_not_intro hkept)
  · have hkeys : c.keys ≠ [] := by
      intro hnil
      rw [size_eq_length_keys, hnil] at hkept
      exact hkept (.inr hpos)
    exact iff_of_true (List.getLast?_isSome.mpr hkeys) hkept

theorem counters_insert {c : Cache κ ν} (hpos : 0 < c.capacity) (k : κ) (v : ν) :
    let after := (c.insert k v).2
    after.hits = c.hits ∧ after.misses = c.misses ∧ after.insertions = c.insertions + 1 ∧
      after.evictions = if k ∈ c.keys ∨ c.size < c.capacity then c.evictions
        else c.evictions + 1 := by
  intro after
  rw [show after = _ from insert_snd c k v]
  refine ⟨rfl, rfl, rfl, ?_⟩
  simp only [isSome_insert_fst hpos, ite_not]
  split_ifs <;> rfl

end Typecase.Cache
