import Typecase.Proofs.Cache.Size

/-!
# The counters of a cache balance

A call is set down with the cache that it met. So each counter is the number of calls of one kind.
A store replaces a value, takes free room, or costs the oldest entry its place, and the entries are
what all stores have added and none has taken.
-/

namespace Typecase.Cache

variable {κ ν : Type}

/-! ## Sound caches -/

/-- No key stands twice, there is no more than there is room for, and nothing has had to go before
the room was used up. -/
structure Sound (c : Cache κ ν) : Prop where
  nodup : c.keys.Nodup
  pos : 0 < c.capacity
  fits : c.size ≤ c.capacity
  full : 0 < c.evictions → c.size = c.capacity

theorem sound_new (n : Nat) : (new n : Cache κ ν).Sound where
  nodup := by simp [new, keys]
  pos := by simp only [new]; omega
  fits := Nat.zero_le _
  full h := absurd h (Nat.lt_irrefl 0)

/-! ## Calls and the caches they met -/

namespace Op

def isGet : Op κ ν → Bool
  | .get _ => true
  | _ => false

def isInsert : Op κ ν → Bool
  | .insert _ _ => true
  | _ => false

/-- The calls that only look at a cache. -/
def looks : Op κ ν → Bool
  | .contains _ => true
  | .inspect => true
  | _ => false

theorem countP_add_countP_le (ops : List (Op κ ν)) :
    ops.countP isGet + ops.countP isInsert ≤ ops.length := by
  have hsplit := List.length_eq_countP_add_countP isGet (l := ops)
  have hother : ops.countP isInsert ≤ ops.countP fun op => ¬op.isGet = true := by
    apply List.countP_mono_left
    intro op _ hinsert
    cases op <;> simp [isGet, isInsert] at hinsert ⊢
  omega

end Op

/-- A call, and the cache that it met. -/
structure Moment (κ ν : Type) where
  cache : Cache κ ν
  op : Op κ ν

variable [DecidableEq κ]

namespace Moment

def answer (m : Moment κ ν) : Answer κ ν := (m.cache.step m.op).1

/-- A value is stored under a key that is there. -/
def replaces (m : Moment κ ν) : Bool :=
  match m.op with
  | .insert k _ => m.cache.contains k
  | _ => false

/-- A value is stored under a new key, and there is no room for it. -/
def evicts (m : Moment κ ν) : Bool :=
  match m.op with
  | .insert k _ => !m.cache.contains k && m.cache.size == m.cache.capacity
  | _ => false

end Moment

def moments (c : Cache κ ν) : List (Op κ ν) → List (Moment κ ν)
  | [] => []
  | op :: ops => ⟨c, op⟩ :: (c.step op).2.moments ops

theorem run_fst (c : Cache κ ν) (ops : List (Op κ ν)) :
    (c.run ops).1 = (c.moments ops).map Moment.answer := by
  induction ops generalizing c with
  | nil => rfl
  | cons op ops ih => exact congrArg _ (ih (c.step op).2)

/-! ## What a call does -/

variable {c : Cache κ ν}

theorem counters_get (c : Cache κ ν) (k : κ) :
    (c.get k).2.hits + (c.get k).2.misses = c.hits + c.misses + 1 ∧
      (c.get k).2.insertions = c.insertions ∧ (c.get k).2.evictions = c.evictions := by
  cases hlookup : c.entries.lookup k with
  | none =>
    rw [get_of_missing hlookup]
    exact ⟨rfl, rfl, rfl⟩
  | some v =>
    rw [get_of_lookup hlookup]
    exact ⟨Nat.add_right_comm _ 1 _, rfl, rfl⟩

theorem replaces_iff_displaced (c : Cache κ ν) (k : κ) (v : ν) :
    (Moment.mk c (.insert k v)).replaces = true ↔
      ∃ displaced, (c.push k v).1 = some displaced ∧ displaced.1 = k := by
  rw [Moment.replaces, contains_iff]
  constructor
  · intro hk
    obtain ⟨old, hold⟩ := exists_lookup hk
    rw [push_of_lookup hold]
    exact ⟨(k, old), rfl, rfl⟩
  · rintro ⟨displaced, hdisplaced, heq⟩
    exact (displaced_key_eq_iff hdisplaced).mp heq

/-- A push into a full cache displaces a pair in any case. So only the key of the pair tells whether
the store has replaced a value or has cost another key its place. -/
theorem Sound.evicts_iff_displaced (h : c.Sound) (k : κ) (v : ν) :
    (Moment.mk c (.insert k v)).evicts = true ↔
      ∃ displaced, (c.push k v).1 = some displaced ∧ displaced.1 ≠ k := by
  have hevicts : (Moment.mk c (.insert k v)).evicts = true ↔ k ∉ c.keys ∧ c.size = c.capacity := by
    rw [Moment.evicts, Bool.and_eq_true, Bool.not_eq_true', Bool.eq_false_iff, ne_eq, contains_iff,
      beq_iff_eq]
  have hfits := h.fits
  have hfull : c.size = c.capacity ↔ ¬ c.size < c.capacity := by omega
  rw [hevicts, hfull, ← not_or, ← isSome_insert_fst h.pos k v, insert_eq, Option.isSome_iff_exists]
  simp only [Option.filter_eq_some_iff, Option.map_eq_some_iff, bne_iff_ne]
  constructor
  · rintro ⟨old, ⟨displaced, hdisplaced, rfl⟩, hne⟩
    exact ⟨displaced, hdisplaced, hne⟩
  · rintro ⟨displaced, hdisplaced, hne⟩
    exact ⟨displaced.1, ⟨displaced, hdisplaced, rfl⟩, hne⟩

/-- All that storing a value can do to the size and to the evictions. -/
theorem Sound.insert_cases (h : c.Sound) (k : κ) (v : ν) :
    let after := (c.insert k v).2
    (k ∈ c.keys ∧ after.size = c.size ∧ after.evictions = c.evictions) ∨
    (k ∉ c.keys ∧ c.size < c.capacity ∧ after.size = c.size + 1 ∧
      after.evictions = c.evictions) ∨
    (k ∉ c.keys ∧ c.size = c.capacity ∧ after.size = c.size ∧
      after.evictions = c.evictions + 1) := by
  intro after
  obtain ⟨-, -, -, hevictions⟩ := counters_insert h.pos k v
  by_cases hk : k ∈ c.keys
  · rw [if_pos (.inl hk)] at hevictions
    exact .inl ⟨hk, size_insert_of_mem h.nodup hk v, hevictions⟩
  have hsize := size_insert_of_not_mem hk h.pos v
  by_cases hroom : c.size < c.capacity
  · rw [if_pos (.inr hroom)] at hevictions
    rw [if_pos hroom] at hsize
    exact .inr (.inl ⟨hk, hroom, hsize, hevictions⟩)
  · rw [if_neg (by tauto)] at hevictions
    rw [if_neg hroom] at hsize
    have hfull := Nat.le_antisymm h.fits (Nat.not_lt.mp hroom)
    exact .inr (.inr ⟨hk, hfull, hsize, hevictions⟩)

/-- What a call adds to the size and to the counters. -/
structure Counts (c : Cache κ ν) (op : Op κ ν) (after : Cache κ ν) : Prop where
  lookups : after.hits + after.misses = c.hits + c.misses + if op.isGet then 1 else 0
  insertions : after.insertions = c.insertions + if op.isInsert then 1 else 0
  evictions : after.evictions = c.evictions + if (Moment.mk c op).evicts then 1 else 0
  balance : after.size + after.evictions + (if (Moment.mk c op).replaces then 1 else 0) =
    c.size + c.evictions + if op.isInsert then 1 else 0

theorem Sound.counts (h : c.Sound) (op : Op κ ν) : Counts c op (c.step op).2 := by
  cases op with
  | get k =>
    obtain ⟨hlookups, hinsertions, hevictions⟩ := counters_get c k
    have hbalance : (c.get k).2.size + (c.get k).2.evictions = c.size + c.evictions := by
      rw [size_get h.nodup, hevictions]
    exact ⟨hlookups, hinsertions, hevictions, hbalance⟩
  | contains k => exact ⟨rfl, rfl, rfl, rfl⟩
  | insert k v =>
    obtain ⟨hhits, hmisses, hinsertions, -⟩ := counters_insert h.pos k v
    have hlookups : (c.insert k v).2.hits + (c.insert k v).2.misses = c.hits + c.misses := by
      rw [hhits, hmisses]
    have hcontains (hk : k ∉ c.keys) : c.contains k = false := by
      rwa [Bool.eq_false_iff, ne_eq, contains_iff]
    rcases h.insert_cases k v with
      ⟨hk, hsize, hevictions⟩ | ⟨hk, hroom, hsize, hevictions⟩ | ⟨hk, hfull, hsize, hevictions⟩
    · have hreplaces : c.contains k = true := (contains_iff c k).mpr hk
      refine ⟨hlookups, hinsertions, ?_, ?_⟩ <;>
        simp [step, Moment.evicts, Moment.replaces, Op.isInsert, hreplaces, hsize, hevictions]
    · have hne : (c.size == c.capacity) = false := beq_false_of_ne (Nat.ne_of_lt hroom)
      refine ⟨hlookups, hinsertions, ?_, ?_⟩ <;>
        simp [step, Moment.evicts, Moment.replaces, Op.isInsert, hcontains hk, hne, hsize,
          hevictions]
      omega
    · refine ⟨hlookups, hinsertions, ?_, ?_⟩ <;>
        simp [step, Moment.evicts, Moment.replaces, Op.isInsert, hcontains hk, hfull, hsize,
          hevictions]
      omega
  | inspect => exact ⟨rfl, rfl, rfl, rfl⟩

theorem Sound.get (h : c.Sound) (k : κ) : (c.get k).2.Sound := by
  obtain ⟨-, -, hevictions⟩ := counters_get c k
  refine ⟨nodup_get h.nodup k, ?_, ?_, ?_⟩
  · rw [capacity_get]
    exact h.pos
  · rw [size_get h.nodup, capacity_get]
    exact h.fits
  · rw [size_get h.nodup, capacity_get, hevictions]
    exact h.full

theorem Sound.insert (h : c.Sound) (k : κ) (v : ν) : (c.insert k v).2.Sound := by
  have hcapacity := capacity_insert c k v
  have hpos := h.pos
  have hfits := h.fits
  have hfull := h.full
  have hcases := h.insert_cases k v
  refine ⟨nodup_insert h.nodup k v, ?_, ?_, ?_⟩ <;> omega

theorem Sound.step (h : c.Sound) (op : Op κ ν) : (c.step op).2.Sound := by
  cases op with
  | get k => exact h.get k
  | contains k => exact h
  | insert k v => exact h.insert k v
  | inspect => exact h

theorem Sound.size_le_step (h : c.Sound) (op : Op κ ν) : c.size ≤ (c.step op).2.size := by
  cases op with
  | get k => exact Nat.le_of_eq (size_get h.nodup k).symm
  | contains k => exact Nat.le_refl _
  | insert k v =>
    have hcases := h.insert_cases k v
    change c.size ≤ (c.insert k v).2.size
    omega
  | inspect => exact Nat.le_refl _

/-! ## Runs -/

theorem Sound.run (h : c.Sound) (ops : List (Op κ ν)) :
    (c.run ops).2.Sound ∧ c.size ≤ (c.run ops).2.size := by
  induction ops generalizing c with
  | nil => exact ⟨h, Nat.le_refl _⟩
  | cons op ops ih =>
    obtain ⟨hsound, hsize⟩ := ih (h.step op)
    exact ⟨hsound, Nat.le_trans (h.size_le_step op) hsize⟩

theorem Sound.counts_run (h : c.Sound) (ops : List (Op κ ν)) :
    let after := (c.run ops).2
    after.hits + after.misses = c.hits + c.misses + ops.countP Op.isGet ∧
    after.insertions = c.insertions + ops.countP Op.isInsert ∧
    after.evictions = c.evictions + (c.moments ops).countP Moment.evicts ∧
    after.size + after.evictions + (c.moments ops).countP Moment.replaces =
      c.size + c.evictions + ops.countP Op.isInsert := by
  induction ops generalizing c with
  | nil => exact ⟨rfl, rfl, rfl, rfl⟩
  | cons op ops ih =>
    obtain ⟨hlookups, hinsertions, hevictions, hbalance⟩ := h.counts op
    obtain ⟨hlookups', hinsertions', hevictions', hbalance'⟩ := ih (h.step op)
    simp only [Cache.run, moments, List.countP_cons]
    refine ⟨?_, ?_, ?_, ?_⟩ <;> omega

theorem counts_run_new (n : Nat) (ops : List (Op κ ν)) :
    let fresh : Cache κ ν := new n
    let c := (fresh.run ops).2
    c.hits + c.misses = ops.countP Op.isGet ∧ c.insertions = ops.countP Op.isInsert ∧
    c.evictions = (fresh.moments ops).countP Moment.evicts ∧
    c.size + c.evictions + (fresh.moments ops).countP Moment.replaces = c.insertions := by
  intro fresh c
  have hcounts := (sound_new (κ := κ) (ν := ν) n).counts_run ops
  have hzero : (new n : Cache κ ν).size = 0 := rfl
  rw [hzero] at hcounts
  simp only [new, Nat.zero_add] at hcounts
  obtain ⟨hlookups, hinsertions, hevictions, hbalance⟩ := hcounts
  exact ⟨hlookups, hinsertions, hevictions, hbalance.trans hinsertions.symm⟩

/-! ## Calls that can be left out -/

/-- The second list is the first without some of the calls that only look. -/
inductive Thinned : List (Moment κ ν) → List (Moment κ ν) → Prop
  | nil : Thinned [] []
  | keep (m : Moment κ ν) {all kept : List (Moment κ ν)} (h : Thinned all kept) :
      Thinned (m :: all) (m :: kept)
  | skip {m : Moment κ ν} (looks : m.op.looks = true) {all kept : List (Moment κ ν)}
      (h : Thinned all kept) : Thinned (m :: all) kept

theorem step_of_looks (c : Cache κ ν) {op : Op κ ν} (h : op.looks = true) : (c.step op).2 = c := by
  cases op with
  | get k => cases h
  | contains k => rfl
  | insert k v => cases h
  | inspect => rfl

theorem moments_of_thinned {ops : List (Op κ ν)} {kept : List (Moment κ ν)}
    (h : Thinned (c.moments ops) kept) :
    c.moments (kept.map Moment.op) = kept ∧
      (c.run (kept.map Moment.op)).2 = (c.run ops).2 := by
  induction ops generalizing c kept with
  | nil =>
    cases h
    exact ⟨rfl, rfl⟩
  | cons op ops ih =>
    cases h with
    | keep _ h =>
      obtain ⟨hmoments, hrun⟩ := ih h
      exact ⟨congrArg _ hmoments, hrun⟩
    | skip looks h =>
      -- The calls after it meet the same cache as it did.
      have hsame := step_of_looks c looks
      obtain ⟨hmoments, hrun⟩ := ih h
      rw [hsame] at hmoments hrun
      refine ⟨hmoments, hrun.trans ?_⟩
      simp only [Cache.run, hsame]

/-- **The counters balance.** After any calls on a new cache, hits and misses count the look-ups,
and insertions count the stores. What was stored is still there, or was replaced, or had to go. An
entry has had to go once for each store of a new key into a full cache, so from then on the cache
is full. Entries never get fewer, and never more than there is room for. No counter exceeds the
number of calls. Calls that only look can be left out, any of them: the others meet the same caches
and get the same answers, and the cache is the same in the end. -/
theorem counters_balance (n : Nat) (ops : List (Op κ ν)) :
    let fresh : Cache κ ν := new n
    let c := (fresh.run ops).2
    c.hits + c.misses = ops.countP Op.isGet ∧
    c.insertions = ops.countP Op.isInsert ∧
    c.size + c.evictions + (fresh.moments ops).countP Moment.replaces = c.insertions ∧
    c.evictions = (fresh.moments ops).countP Moment.evicts ∧
    (0 < c.evictions → c.size = max n 1) ∧
    c.size ≤ max n 1 ∧ (∀ more, c.size ≤ (c.run more).2.size) ∧
    c.hits + c.misses + c.insertions ≤ ops.length ∧
    (fresh.run ops).1 = (fresh.moments ops).map Moment.answer ∧
    ∀ kept, Thinned (fresh.moments ops) kept →
      let thin := fresh.run (kept.map Moment.op)
      fresh.moments (kept.map Moment.op) = kept ∧ thin.1 = kept.map Moment.answer ∧
        thin.2 = c := by
  intro fresh c
  have hfresh : fresh.Sound := sound_new n
  have hsound : c.Sound := (hfresh.run ops).1
  have hcapacity : c.capacity = max n 1 := capacity_run fresh ops
  obtain ⟨hlookups, hinsertions, hevictions, hbalance⟩ := counts_run_new (κ := κ) (ν := ν) n ops
  refine ⟨hlookups, hinsertions, hbalance, hevictions, ?_, ?_, ?_, ?_, run_fst fresh ops, ?_⟩
  · exact hcapacity ▸ hsound.full
  · exact hcapacity ▸ hsound.fits
  · exact fun more => (hsound.run more).2
  · calc c.hits + c.misses + c.insertions
        = ops.countP Op.isGet + ops.countP Op.isInsert := congrArg₂ _ hlookups hinsertions
      _ ≤ ops.length := Op.countP_add_countP_le ops
  · intro kept hthinned thin
    obtain ⟨hmoments, hrun⟩ := moments_of_thinned hthinned
    exact ⟨hmoments, (run_fst fresh _).trans (congrArg _ hmoments), hrun⟩

end Typecase.Cache
