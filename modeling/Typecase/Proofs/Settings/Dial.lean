import Typecase.Proofs.Text.Numeral
import Typecase.Settings

/-!
# What the environment can set

Three numbers can be set, each by a variable of its own. A variable sets its number exactly if it
holds a numeral from 1 to what the number may be at most.
-/

namespace Typecase

open Text

/-- A number that the environment can set. -/
inductive Dial where
  | capacity
  | attempts
  | chunk

namespace Dial

def name : Dial → String
  | capacity => "FONTSTAGE_CACHE_CAPACITY"
  | attempts => "FONTSTAGE_TEMP_ATTEMPTS"
  | chunk => "FONTSTAGE_COPY_BUFFER"

/-- The largest number that fits. -/
def limit : Dial → Nat
  | attempts => UInt32.size - 1
  | capacity | chunk => UInt64.size - 1

def value (s : Settings) : Dial → Nat
  | capacity => s.capacity
  | attempts => s.staging.maxAttempts
  | chunk => s.staging.chunkSize

/-- The variable of the dial holds a numeral for this number, and the number is in range. -/
def Sets (d : Dial) (lookup : String → Option String) (n : Nat) : Prop :=
  ∃ m : Numeral, lookup d.name = some m.text ∧ m.value = n ∧ 1 ≤ n ∧ n ≤ d.limit

/-- The number that is read from the variable of the dial. -/
def reading (d : Dial) (lookup : String → Option String) : Option Nat :=
  (lookup d.name).bind fun raw => readPositive d.limit raw.toList

theorem value_ofLookup (d : Dial) (lookup : String → Option String) :
    d.value (Settings.ofLookup lookup) = (d.reading lookup).getD (d.value {}) := by
  have hheard (name : String) (limit fallback : Nat) :
      Settings.Heard.value fallback (Settings.hear lookup name limit) =
        ((lookup name).bind fun raw => readPositive limit raw.toList).getD fallback := by
    unfold Settings.hear
    cases lookup name with
    | none => rfl
    | some raw =>
      rw [Option.map_some, Option.bind_some]
      cases readPositive limit raw.toList <;> rfl
  cases d <;> exact hheard _ _ _

variable {d : Dial} {lookup : String → Option String} {n : Nat}

theorem reading_eq_some_iff : d.reading lookup = some n ↔ d.Sets lookup n := by
  simp only [reading, Option.bind_eq_some_iff, readPositive_eq_some_iff, Sets]
  constructor
  · rintro ⟨raw, hraw, m, rfl, hvalue⟩
    exact ⟨m, hraw, hvalue⟩
  · rintro ⟨m, hraw, hvalue⟩
    exact ⟨m.text, hraw, m, rfl, hvalue⟩

theorem value_of_sets (h : d.Sets lookup n) : d.value (Settings.ofLookup lookup) = n := by
  rw [value_ofLookup, reading_eq_some_iff.mpr h, Option.getD_some]

theorem value_of_not_sets (h : ∀ n, ¬ d.Sets lookup n) :
    d.value (Settings.ofLookup lookup) = d.value {} := by
  have hnone : d.reading lookup = none :=
    Option.eq_none_iff_forall_ne_some.mpr fun n hn => h n (reading_eq_some_iff.mp hn)
  rw [value_ofLookup, hnone, Option.getD_none]

theorem value_eq_iff (d : Dial) (lookup : String → Option String) (n : Nat) :
    d.value (Settings.ofLookup lookup) = n ↔
      d.Sets lookup n ∨ d.value {} = n ∧ ∀ k, ¬ d.Sets lookup k := by
  by_cases h : ∃ k, d.Sets lookup k
  · obtain ⟨k, hk⟩ := h
    rw [value_of_sets hk]
    constructor
    · rintro rfl
      exact .inl hk
    · rintro (hn | ⟨-, hnone⟩)
      · exact (value_of_sets hk).symm.trans (value_of_sets hn)
      · exact absurd hk (hnone k)
  · have hnone : ∀ k, ¬ d.Sets lookup k := fun k hk => h ⟨k, hk⟩
    rw [value_of_not_sets hnone]
    simp [hnone]

theorem value_in_range (d : Dial) (lookup : String → Option String) :
    1 ≤ d.value (Settings.ofLookup lookup) ∧ d.value (Settings.ofLookup lookup) ≤ d.limit := by
  rcases (value_eq_iff d lookup _).mp rfl with ⟨m, -, -, hrange⟩ | ⟨hdefault, -⟩
  · exact hrange
  · rw [← hdefault]
    cases d <;> decide

end Dial

namespace Settings

theorem ext_dials {s t : Settings} (hstem : s.staging.stem = t.staging.stem)
    (h : ∀ d : Dial, d.value s = d.value t) : s = t := by
  obtain ⟨⟨stem, attempts, chunk⟩, capacity⟩ := s
  obtain ⟨⟨stem', attempts', chunk'⟩, capacity'⟩ := t
  obtain rfl : stem = stem' := hstem
  obtain rfl : attempts = attempts' := h .attempts
  obtain rfl : chunk = chunk' := h .chunk
  obtain rfl : capacity = capacity' := h .capacity
  rfl

/-- **The environment is heard where it gives a number.** A number is the one that its variable
spells, if it spells one that is in range, and the default otherwise. No variable sets the stem, or
the number of another one. Settings that are written to the environment, in any way that numbers can
be written, are read back from there but for the stem. -/
theorem numbers_are_as_spelled (lookup : String → Option String) :
    (∀ (d : Dial) (n : Nat), d.value (ofLookup lookup) = n ↔
      d.Sets lookup n ∨ d.value {} = n ∧ ∀ k, ¬ d.Sets lookup k) ∧
    (ofLookup lookup).staging.stem = ".font" ∧
    (∀ d : Dial, 1 ≤ d.value (ofLookup lookup) ∧ d.value (ofLookup lookup) ≤ d.limit) ∧
    (∀ (d : Dial) (lookup' : String → Option String), lookup' d.name = lookup d.name →
      d.value (ofLookup lookup') = d.value (ofLookup lookup)) ∧
    ∀ (s : Settings) (frame : Dial → Frame) (zeros : Dial → Nat),
      (∀ d : Dial, 1 ≤ d.value s ∧ d.value s ≤ d.limit) →
      (∀ d : Dial, lookup d.name = some ((frame d).write (zeros d) (d.value s)).text) →
      ofLookup lookup = { s with staging := { s.staging with stem := ".font" } } := by
  refine ⟨fun d => d.value_eq_iff lookup, rfl, fun d => d.value_in_range lookup, ?_, ?_⟩
  · intro d lookup' hsame
    have hreading : d.reading lookup' = d.reading lookup := by
      rw [Dial.reading, hsame, Dial.reading]
    rw [Dial.value_ofLookup, hreading, ← Dial.value_ofLookup]
  · intro s frame zeros hrange hwritten
    refine ext_dials rfl fun d => ?_
    have hsets : d.Sets lookup (d.value s) := ⟨_, hwritten d, by simp, hrange d⟩
    rw [Dial.value_of_sets hsets]
    cases d <;> rfl

example :
    let lookup := fun name =>
      if name = "FONTSTAGE_CACHE_CAPACITY" then some "\t+0064\u2003"
      else if name = "FONTSTAGE_TEMP_ATTEMPTS" then some "4294967296" else some "1 024"
    ofLookup lookup = { capacity := 64 } := by
  decide +kernel

end Settings

end Typecase
