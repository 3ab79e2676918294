import Typecase.Proofs.Cache.Recency

/-!
# What a cache holds, told by its calls alone

A key is there if fewer others than the capacity were touched after it, and under it is the value
that was stored last.
-/

namespace Typecase.Cache

variable {κ ν : Type} [DecidableEq κ]

/-! ## Stored values -/

def stored (k : κ) : Op κ ν → Option ν
  | .insert k' v => if k' = k then some v else none
  | _ => none

/-- The value stored last under a key. -/
def lastStored (k : κ) (ops : List (Op κ ν)) : Option ν := (ops.filterMap (stored k)).getLast?

theorem getLast?_filterMap_snoc {α β : Type} (f : α → Option β) (l : List α) (a : α) :
    ((l ++ [a]).filterMap f).getLast? = (f a).or (l.filterMap f).getLast? := by
  rw [List.filterMap_append]
  cases h : f a with
  | none => simp [h]
  | some b => simp [h]

theorem lastStored_snoc (k : κ) (ops : List (Op κ ν)) (op : Op κ ν) :
    lastStored k (ops ++ [op]) = (stored k op).or (lastStored k ops) :=
  getLast?_filterMap_snoc (stored k) ops op

theorem stored_eq_some_iff (k : κ) (op : Op κ ν) (v : ν) :
    stored k op = some v ↔ op = .insert k v := by
  cases op with
  | insert k' v' =>
    simp only [stored, Option.ite_none_right_eq_some, Option.some.injEq, Op.insert.injEq]
  | _ => simp [stored]

theorem getLast?_filterMap_eq_some_iff {α β : Type} (f : α → Option β) (l : List α) (b : β) :
    (l.filterMap f).getLast? = some b ↔
      ∃ before a after, l = before ++ a :: after ∧ f a = some b ∧ ∀ x ∈ after, f x = none := by
  rw [List.getLast?_eq_some_iff]
  constructor
  · rintro ⟨older, h⟩
    obtain ⟨before, rest, rfl, -, hrest⟩ := List.filterMap_eq_append_iff.mp h
    obtain ⟨skipped, a, after, rfl, -, ha, hafter⟩ := List.filterMap_eq_cons_iff.mp hrest
    exact ⟨before ++ skipped, a, after, by simp, ha, List.filterMap_eq_nil_iff.mp hafter⟩
  · rintro ⟨before, a, after, rfl, ha, hafter⟩
    refine ⟨before.filterMap f, ?_⟩
    simp [ha, List.filterMap_eq_nil_iff.mpr hafter]

theorem stored_eq_none_iff (k : κ) (op : Op κ ν) : stored k op = none ↔ ∀ v, op ≠ .insert k v := by
  rw [Option.eq_none_iff_forall_ne_some]
  exact forall_congr' fun v => not_congr (stored_eq_some_iff k op v)

theorem lastStored_eq_some_iff (k : κ) (ops : List (Op κ ν)) (v : ν) :
    lastStored k ops = some v ↔
      ∃ before after, ops = before ++ .insert k v :: after ∧ ∀ v', .insert k v' ∉ after := by
  rw [lastStored, getLast?_filterMap_eq_some_iff]
  simp only [stored_eq_some_iff, stored_eq_none_iff]
  constructor
  · rintro ⟨before, op, after, rfl, rfl, hafter⟩
    exact ⟨before, after, rfl, fun v' hm => hafter _ hm v' rfl⟩
  · rintro ⟨before, after, rfl, hafter⟩
    refine ⟨before, _, after, rfl, rfl, ?_⟩
    rintro op hm v' rfl
    exact hafter v' hm

/-! ## The entries hold what was stored last -/

theorem lastStored_step {c : Cache κ ν} {ops : List (Op κ ν)}
    (h : ∀ e ∈ c.entries, lastStored e.1 ops = some e.2) (op : Op κ ν) :
    ∀ e ∈ (c.step op).2.entries, lastStored e.1 (ops ++ [op]) = some e.2 := by
  intro e he
  rw [lastStored_snoc]
  cases op with
  | get k =>
    suffices hold : e ∈ c.entries by simp [stored, h e hold]
    cases hl : c.entries.lookup k with
    | none => simpa [step, get_of_missing hl] using he
    | some v =>
      simp only [step, get_of_lookup hl, List.mem_cons] at he
      rcases he with rfl | he
      · exact mem_of_lookup hl
      · exact (List.mem_filter.mp he).1
  | contains k => simpa [stored] using h e he
  | insert k v =>
    simp only [step, entries_insert, List.mem_cons] at he
    rcases he with rfl | he
    · simp [stored]
    · obtain ⟨hold, hne⟩ := ne_of_mem_older he
      simp [stored, hne.symm, h e hold]
  | inspect => simpa [stored] using h e he

theorem lastStored_run (n : Nat) (ops : List (Op κ ν)) :
    ∀ e ∈ ((new n : Cache κ ν).run ops).2.entries, lastStored e.1 ops = some e.2 := by
  induction ops using List.reverseRecOn with
  | nil => simp [run, new]
  | append_singleton ops op ih =>
    rw [run_snoc]
    exact lastStored_step ih op

theorem lookup_run {n : Nat} {ops : List (Op κ ν)} {k : κ} {v : ν}
    (h : ((new n : Cache κ ν).run ops).2.entries.lookup k = some v) : lastStored k ops = some v :=
  lastStored_run n ops (k, v) (mem_of_lookup h)

theorem exists_stored {k : κ} {ops : List (Op κ ν)} {v : ν} (h : lastStored k ops = some v) :
    ∃ v, .insert k v ∈ ops := by
  obtain ⟨before, after, rfl, -⟩ := (lastStored_eq_some_iff k ops v).mp h
  exact ⟨v, by simp⟩

theorem mem_touches_iff (n : Nat) (ops : List (Op κ ν)) (k : κ) :
    k ∈ touches ops ((new n : Cache κ ν).run ops).1 ↔ ∃ v, .insert k v ∈ ops := by
  induction ops using List.reverseRecOn with
  | nil => simp [touches]
  | append_singleton ops op ih =>
    rw [run_snoc, touches_snoc (length_run _ _), List.mem_append, ih]
    simp only [List.mem_append, List.mem_singleton, exists_or]
    cases op with
    | get k' =>
      cases hl : ((new n : Cache κ ν).run ops).2.entries.lookup k' with
      | none => simp [step, get_fst, hl, touched]
      | some v =>
        -- A look-up that finds its key adds no key, because the key was stored before.
        have hold := exists_stored (lookup_run hl)
        simp only [step, get_fst, hl, touched, Option.toList_some, List.mem_singleton,
          reduceCtorEq, exists_false, or_false, or_iff_left_iff_imp]
        rintro rfl
        exact hold
    | contains k' => simp [touched]
    | insert k' v => simp [touched, eq_comm]
    | inspect => simp [touched]

/-! ## Calls that touch nothing -/

/-- The calls that have touched a key. -/
def touching (ops : List (Op κ ν)) (answers : List (Answer κ ν)) : List (Op κ ν) :=
  ((ops.zip answers).filter fun call => (touched call.1 call.2).isSome).map (·.1)

/-- Two caches that differ in their counters at most. -/
def Alike (c c' : Cache κ ν) : Prop := c.entries = c'.entries ∧ c.capacity = c'.capacity

theorem alike_step {c c' : Cache κ ν} (h : Alike c c') (op : Op κ ν) :
    (c.step op).1 = (c'.step op).1 ∧ Alike (c.step op).2 (c'.step op).2 := by
  rw [Alike, capacity_step, capacity_step, ← and_assoc]
  refine ⟨?_, h.2⟩
  obtain ⟨capacity, entries, _, _, _, _⟩ := c
  obtain ⟨capacity', entries', _, _, _, _⟩ := c'
  obtain ⟨rfl, rfl⟩ : entries = entries' ∧ capacity = capacity' := h
  cases op with
  | get k =>
    simp only [step, get_fst, entries_get]
    exact ⟨trivial, rfl⟩
  | contains k => exact ⟨rfl, rfl⟩
  | insert k v =>
    simp only [step, insert_fst, entries_insert]
    exact ⟨rfl, rfl⟩
  | inspect => exact ⟨rfl, rfl⟩

theorem alike_of_untouched {c : Cache κ ν} {op : Op κ ν} (h : touched op (c.step op).1 = none) :
    Alike (c.step op).2 c := by
  cases op with
  | get k =>
    cases hl : c.entries.lookup k with
    | none => simp [step, get_of_missing hl, Alike]
    | some v => simp [step, get_fst, hl, touched] at h
  | contains k => exact ⟨rfl, rfl⟩
  | insert k v => simp [touched] at h
  | inspect => exact ⟨rfl, rfl⟩

theorem alike_run_touching {c c' : Cache κ ν} (h : Alike c c') (ops : List (Op κ ν)) :
    Alike (c.run ops).2 (c'.run (touching ops (c.run ops).1)).2 := by
  induction ops generalizing c c' with
  | nil => exact h
  | cons op ops ih =>
    obtain ⟨hanswer, hstep⟩ := alike_step h op
    simp only [run, touching, List.zip_cons_cons, List.filter_cons]
    cases htouch : touched op (c.step op).1 with
    | none =>
      have hback := alike_of_untouched htouch
      exact ih ⟨hback.1.trans h.1, hback.2.trans h.2⟩
    | some k => exact ih hstep

/-! ## What is kept -/

/-- **Least recently used.** A key is there if it was stored and fewer other keys than the cache has
room for were touched after it. Then a look-up finds the value stored last. The cache never holds
more than it has room for, and calls that touch nothing have no say in what it keeps. -/
theorem present_iff_recently_touched (n : Nat) (ops : List (Op κ ν)) :
    let answers := ((new n : Cache κ ν).run ops).1
    let c := ((new n : Cache κ ν).run ops).2
    (∀ k, (c.contains k = true ↔
        (∃ v, .insert k v ∈ ops) ∧ (since k (touches ops answers)).toFinset.card < max n 1) ∧
      ((c.get k).1.isSome = true ↔ c.contains k = true) ∧
      ∀ v, (c.get k).1 = some v →
        ∃ before after, ops = before ++ .insert k v :: after ∧ ∀ v', .insert k v' ∉ after) ∧
    c.size ≤ max n 1 ∧
    ((new n : Cache κ ν).run (touching ops answers)).2.entries = c.entries := by
  intro answers c
  have hkeys : c.keys = (recency (touches ops answers)).take (max n 1) := by
    have := holdsNewest_run (κ := κ) (ν := ν) n ops
    rwa [HoldsNewest, capacity_run] at this
  refine ⟨fun k => ⟨?_, ?_, ?_⟩, ?_, ?_⟩
  · rw [contains_iff, hkeys, mem_take_recency, mem_touches_iff]
  · rw [isSome_get, contains_iff]
  · intro v hv
    rw [get_fst] at hv
    exact (lastStored_eq_some_iff k ops v).mp (lookup_run hv)
  · have := congrArg List.length hkeys
    rw [keys, List.length_map, List.length_take] at this
    rw [size, this]
    exact Nat.min_le_left _ _
  · exact (alike_run_touching ⟨rfl, rfl⟩ ops).1.symm

end Typecase.Cache
