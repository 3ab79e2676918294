import Mathlib.Data.Finset.Card
import Mathlib.Data.List.Nodup
import Mathlib.Data.List.TakeWhile
import Typecase.Cache.Lemmas

/-!
# The cache keeps the keys that were touched last

Storing touches a key, and so does a look-up that finds it. `recency` puts all touched keys in the
order of their last touch, and a cache holds a front piece of that list, as long as it has room.
-/

namespace Typecase.Cache

variable {κ ν : Type}

/-! ## What a list of calls has touched -/

/-- The key that a call has touched. A look-up that finds nothing touches nothing. -/
def touched : Op κ ν → Answer κ ν → Option κ
  | .get k, .found (some _) => some k
  | .insert k _, _ => some k
  | _, _ => none

def touches (ops : List (Op κ ν)) (answers : List (Answer κ ν)) : List κ :=
  (ops.zip answers).filterMap fun call => touched call.1 call.2

theorem touches_snoc {ops : List (Op κ ν)} {answers : List (Answer κ ν)}
    (h : answers.length = ops.length) (op : Op κ ν) (answer : Answer κ ν) :
    touches (ops ++ [op]) (answers ++ [answer]) =
      touches ops answers ++ (touched op answer).toList := by
  rw [touches, List.zip_append h.symm, List.filterMap_append, touches]
  cases htouch : touched op answer <;> simp [htouch]

/-! ## The order of last touches -/

variable [DecidableEq κ]

/-- What was touched after the last touch of a key. -/
def since (k : κ) (ts : List κ) : List κ := ts.reverse.takeWhile (· != k)

theorem since_append_cons {k : κ} {newer : List κ} (h : k ∉ newer) (older : List κ) :
    since k (older ++ k :: newer) = newer.reverse := by
  have hall : ∀ x ∈ newer.reverse, (x != k) = true := by
    intro x hx
    rw [bne_iff_ne]
    rintro rfl
    exact h (List.mem_reverse.mp hx)
  rw [since, List.reverse_append, List.reverse_cons, List.append_assoc,
    List.takeWhile_append_of_pos hall]
  simp

theorem not_mem_since (k : κ) (ts : List κ) : k ∉ since k ts := by
  intro h
  have hne := List.mem_takeWhile_imp h
  simp at hne

theorem since_subset (k : κ) (ts : List κ) : since k ts ⊆ ts := by
  intro x hx
  exact List.mem_reverse.mp ((List.takeWhile_sublist _).subset hx)

/-- All touched keys in the order of their last touch, newest first. -/
def recency (ts : List κ) : List κ := ts.foldl (fun order k => k :: order.filter (· != k)) []

theorem recency_snoc (ts : List κ) (k : κ) :
    recency (ts ++ [k]) = k :: (recency ts).filter (· != k) := by
  simp [recency]

theorem mem_recency (ts : List κ) (k : κ) : k ∈ recency ts ↔ k ∈ ts := by
  induction ts using List.reverseRecOn with
  | nil => simp [recency]
  | append_singleton ts t ih =>
    rw [recency_snoc, List.mem_cons, List.mem_filter, ih]
    simp only [List.mem_append, List.mem_singleton, bne_iff_ne]
    tauto

theorem nodup_recency (ts : List κ) : (recency ts).Nodup := by
  induction ts using List.reverseRecOn with
  | nil => simp [recency]
  | append_singleton ts t ih =>
    rw [recency_snoc, List.nodup_cons]
    exact ⟨by simp, ih.filter _⟩

theorem takeWhile_filter_ne {k t : κ} (h : t ≠ k) (l : List κ) :
    (l.filter (· != t)).takeWhile (· != k) = (l.takeWhile (· != k)).filter (· != t) := by
  induction l with
  | nil => rfl
  | cons x l ih =>
    by_cases hxk : x = k
    · subst hxk
      simp [h.symm]
    · by_cases hxt : x = t
      · subst hxt
        simp [hxk, ih]
      · simp [hxk, hxt, ih]

theorem takeWhile_recency (ts : List κ) (k : κ) :
    ((recency ts).takeWhile (· != k)).toFinset = (since k ts).toFinset := by
  induction ts using List.reverseRecOn with
  | nil => rfl
  | append_singleton ts t ih =>
    by_cases h : t = k
    · subst h
      simp [recency_snoc, since]
    · rw [recency_snoc, since, List.reverse_append, List.reverse_singleton, List.singleton_append,
        List.takeWhile_cons_of_pos (by simpa using h), List.takeWhile_cons_of_pos (by simpa using h),
        takeWhile_filter_ne h, List.toFinset_cons, List.toFinset_cons]
      rw [since] at ih
      rw [← ih]
      ext x
      by_cases hx : x = t <;> simp [hx]

theorem length_takeWhile_recency (ts : List κ) (k : κ) :
    ((recency ts).takeWhile (· != k)).length = (since k ts).toFinset.card := by
  rw [← takeWhile_recency, List.toFinset_card_of_nodup]
  exact (nodup_recency ts).sublist (List.takeWhile_sublist _)

theorem mem_take_iff {k : κ} {l : List κ} (h : k ∈ l) (n : Nat) :
    k ∈ l.take n ↔ (l.takeWhile (· != k)).length < n := by
  induction l generalizing n with
  | nil => simp at h
  | cons x l ih =>
    cases n with
    | zero => simp
    | succ n =>
      by_cases hx : x = k
      · simp [hx]
      · have hl : k ∈ l := by simpa [Ne.symm hx] using h
        rw [List.take_succ_cons, List.mem_cons, List.takeWhile_cons_of_pos (by simpa using hx),
          List.length_cons, ih hl]
        simp [Ne.symm hx]

/-- A key is among the `n` newest if fewer than `n` others were touched after it. -/
theorem mem_take_recency (ts : List κ) (k : κ) (n : Nat) :
    k ∈ (recency ts).take n ↔ k ∈ ts ∧ (since k ts).toFinset.card < n := by
  rw [← mem_recency ts k, ← length_takeWhile_recency]
  constructor
  · intro h
    have hm := List.mem_of_mem_take h
    exact ⟨hm, (mem_take_iff hm n).mp h⟩
  · rintro ⟨hm, h⟩
    exact (mem_take_iff hm n).mpr h

/-! ## Front pieces -/

theorem filter_ne_of_not_mem {k : κ} {l : List κ} (h : k ∉ l) : l.filter (· != k) = l := by
  apply List.filter_eq_self.mpr
  intro x hx
  rw [bne_iff_ne]
  rintro rfl
  exact h hx

theorem promote_take {k : κ} {l : List κ} {n : Nat} (hl : l.Nodup) (h : k ∈ l.take n) :
    k :: (l.take n).filter (· != k) = (k :: l.filter (· != k)).take n := by
  induction l generalizing n with
  | nil => simp at h
  | cons x l ih =>
    obtain ⟨hx, hl⟩ := List.nodup_cons.mp hl
    obtain _ | m := n
    · simp at h
    by_cases hxk : x = k
    · subst hxk
      have hm : x ∉ l.take m := fun hm => hx (List.mem_of_mem_take hm)
      simp [filter_ne_of_not_mem hx, filter_ne_of_not_mem hm]
    · have hk : k ∈ l.take m := by simpa [Ne.symm hxk] using h
      obtain _ | m := m
      · simp at hk
      have := ih hl hk
      simp only [List.take_succ_cons, List.cons.injEq, true_and] at this ⊢
      simp [hxk, this]

theorem admit_take {k : κ} {l : List κ} {n : Nat} (hn : 0 < n) (h : k ∉ l.take n) :
    (k :: if (l.take n).length < n then l.take n else (l.take n).dropLast) =
      (k :: l.filter (· != k)).take n := by
  obtain ⟨m, rfl⟩ : ∃ m, n = m + 1 := ⟨n - 1, by omega⟩
  rw [List.take_succ_cons, List.cons.injEq]
  refine ⟨rfl, ?_⟩
  split
  · rename_i hroom
    have hl : l.length ≤ m := by simp at hroom; omega
    rw [List.take_of_length_le (by omega)] at h ⊢
    rw [filter_ne_of_not_mem h, List.take_of_length_le hl]
  · rename_i hfull
    have hl : m + 1 ≤ l.length := by simp at hfull; omega
    conv_rhs => rw [← List.take_append_drop (m + 1) l, List.filter_append, filter_ne_of_not_mem h]
    rw [List.take_append_of_le_length (by simp; omega), List.take_take, List.dropLast_eq_take,
      List.length_take, min_eq_left hl, List.take_take]
    rfl

/-! ## The cache is a front piece -/

/-- The cache holds the newest keys, as many as it has room for. -/
def HoldsNewest (c : Cache κ ν) (ts : List κ) : Prop := c.keys = (recency ts).take c.capacity

theorem holdsNewest_new (n : Nat) : HoldsNewest (new n : Cache κ ν) [] := by
  simp [HoldsNewest, recency, new, keys]

theorem holdsNewest_step {c : Cache κ ν} {ts : List κ} (hc : 0 < c.capacity) (h : HoldsNewest c ts)
    (op : Op κ ν) :
    HoldsNewest (c.step op).2 (ts ++ (touched op (c.step op).1).toList) := by
  rw [HoldsNewest] at h
  rw [HoldsNewest, capacity_step]
  cases op with
  -- What a look-up touches depends on the state. By `h` the keys of the state are the newest ones.
  | get k =>
    by_cases hk : k ∈ c.keys
    · obtain ⟨v, hv⟩ := exists_lookup hk
      simp only [step, get_fst, hv, touched, Option.toList_some]
      rw [keys_get_of_mem hk, recency_snoc, h]
      exact promote_take (nodup_recency ts) (h ▸ hk)
    · simp only [step, get_fst, (lookup_eq_none_iff c k).mpr hk, touched, Option.toList_none,
        List.append_nil]
      rw [keys_get_of_not_mem hk, h]
  | contains k => simpa [step, touched] using h
  | insert k v =>
    simp only [step, touched, Option.toList_some, recency_snoc]
    by_cases hk : k ∈ c.keys
    · rw [keys_insert_of_mem hk, h]
      exact promote_take (nodup_recency ts) (h ▸ hk)
    · rw [keys_insert_of_not_mem hk, h]
      exact admit_take hc (h ▸ hk)
  | inspect => simpa [step, touched] using h

theorem holdsNewest_run (n : Nat) (ops : List (Op κ ν)) :
    HoldsNewest ((new n : Cache κ ν).run ops).2 (touches ops ((new n : Cache κ ν).run ops).1) := by
  induction ops using List.reverseRecOn with
  | nil => exact holdsNewest_new n
  | append_singleton ops op ih =>
    rw [run_snoc, touches_snoc (length_run _ _)]
    apply holdsNewest_step _ ih
    rw [capacity_run]
    exact Nat.lt_of_lt_of_le Nat.zero_lt_one (Nat.le_max_right n 1)

end Typecase.Cache
