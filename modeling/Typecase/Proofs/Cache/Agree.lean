import Mathlib.Data.List.Forall2
import Typecase.Cache.Lemmas

/-!
# Caches that agree up to their values

Two caches agree under a relation if they differ in their values only, and values at the same entry
are related. Calls with related values keep them in agreement.
-/

namespace Typecase.Cache

variable {κ ν : Type}

def map (f : ν → ν) (c : Cache κ ν) : Cache κ ν :=
  { c with entries := c.entries.map fun e => (e.1, f e.2) }

theorem map_id (c : Cache κ ν) : c.map id = c :=
  congrArg (fun entries => { c with entries }) (List.map_id c.entries)

def Paired (R : ν → ν → Prop) (e e' : κ × ν) : Prop := e.1 = e'.1 ∧ R e.2 e'.2

def Agree (R : ν → ν → Prop) (c d : Cache κ ν) : Prop :=
  ∃ entries, List.Forall₂ (Paired R) c.entries entries ∧ d = { c with entries }

variable {R R' : ν → ν → Prop} {c d : Cache κ ν}

theorem Agree.mono (h : c.Agree R d) (hR : ∀ v v', R v v' → R' v v') : c.Agree R' d := by
  obtain ⟨entries, hentries, rfl⟩ := h
  exact ⟨entries, hentries.imp fun e e' he => ⟨he.1, hR _ _ he.2⟩, rfl⟩

theorem agree_self (h : ∀ e ∈ c.entries, R e.2 e.2) : c.Agree R c :=
  ⟨c.entries, List.forall₂_same.mpr fun e he => ⟨rfl, h e he⟩, rfl⟩

theorem Agree.eq_map (h : c.Agree R d) {f : ν → ν} (hf : ∀ v v', R v v' → v' = f v) :
    d = c.map f := by
  obtain ⟨entries, hentries, rfl⟩ := h
  have hpairs : List.Forall₂ Eq (c.entries.map fun e => (e.1, f e.2)) entries := by
    rw [List.forall₂_map_left_iff]
    exact hentries.imp fun e e' he => Prod.ext he.1 (hf _ _ he.2).symm
  rw [List.forall₂_eq_eq_eq] at hpairs
  rw [map, hpairs]

theorem Agree.keys_eq (h : c.Agree R d) : d.keys = c.keys := by
  obtain ⟨entries, hentries, rfl⟩ := h
  have hkeys := List.rel_map (P := Eq) (fun e e' he => he.1) hentries
  rw [List.forall₂_eq_eq_eq] at hkeys
  exact hkeys.symm

theorem paired (k : κ) {v v' : ν} (h : R v v') : Paired R (k, v) (k, v') := ⟨rfl, h⟩

variable [DecidableEq κ]

theorem lookup_agree {l l' : List (κ × ν)}
    (h : List.Forall₂ (Paired R) l l') (k : κ) :
    Option.Rel R (l.lookup k) (l'.lookup k) := by
  induction h with
  | nil => exact .none
  | @cons e e' l l' he _ ih =>
    rw [List.lookup_cons, List.lookup_cons, ← he.1]
    cases k == e.1 with
    | true => exact .some he.2
    | false => exact ih

theorem without_agree {entries : List (κ × ν)}
    (h : List.Forall₂ (Paired R) c.entries entries) (k : κ) :
    List.Forall₂ (Paired R) (c.without k)
      ({ c with entries }.without k) := by
  apply List.rel_filter _ h
  intro e e' he
  simp only [he.1]

theorem Agree.get (h : c.Agree R d) (k : κ) :
    Option.Rel R (c.get k).1 (d.get k).1 ∧ (c.get k).2.Agree R (d.get k).2 := by
  obtain ⟨entries, hentries, rfl⟩ := h
  have hlookup := lookup_agree hentries k
  rw [get_fst, get_fst]
  refine ⟨hlookup, ?_⟩
  generalize hc : c.entries.lookup k = found at hlookup
  generalize hd : entries.lookup k = found' at hlookup
  cases hlookup with
  | none =>
    rw [get_of_missing hc, get_of_missing hd]
    exact ⟨entries, hentries, rfl⟩
  | some hv =>
    rw [get_of_lookup hc, get_of_lookup hd]
    exact ⟨_, .cons (paired k hv) (without_agree hentries k), rfl⟩

theorem Agree.older (h : c.Agree R d) (k : κ) :
    List.Forall₂ (Paired R) (c.older k) (d.older k) := by
  have hcontains : d.contains k = c.contains k := by
    rw [Bool.eq_iff_iff, contains_iff, contains_iff, h.keys_eq]
  obtain ⟨entries, hentries, rfl⟩ := h
  have hsize : { c with entries }.size = c.size := hentries.length_eq.symm
  unfold Cache.older
  rw [hcontains, hsize]
  split
  · exact without_agree hentries k
  split
  · exact hentries
  · rw [List.dropLast_eq_take, List.dropLast_eq_take, hentries.length_eq]
    exact List.forall₂_take _ hentries

theorem Agree.insert_fst_eq (h : c.Agree R d) (k : κ) (v v' : ν) :
    (d.insert k v').1 = (c.insert k v).1 := by
  rw [insert_fst, insert_fst, h.keys_eq]
  obtain ⟨entries, hentries, rfl⟩ := h
  rw [size, size, hentries.length_eq]

theorem Agree.insert (h : c.Agree R d) (k : κ) {v v' : ν} (hv : R v v') :
    (c.insert k v).2.Agree R (d.insert k v').2 := by
  refine ⟨(k, v') :: d.older k, ?_, ?_⟩
  · rw [entries_insert]
    exact .cons (paired k hv) (h.older k)
  · rw [insert_snd, insert_snd, h.insert_fst_eq k v v']
    obtain ⟨entries, -, rfl⟩ := h
    rfl

end Typecase.Cache
