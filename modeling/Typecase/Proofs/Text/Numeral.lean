import Mathlib.Data.List.DropRight
import Typecase.Text.Numeral

/-!
# Numbers as they may be written

A numeral has digits, perhaps a plus sign before them, and blanks around. Reading gives the value of
a numeral, and reads nothing else.
-/

namespace Typecase.Text

/-! ## Blanks around a text -/

/-- Only blanks are cut off. -/
theorem exists_strip (cs : List Char) :
    ∃ before after, before ++ strip cs ++ after = cs ∧ (∀ c ∈ before, isBlank c = true) ∧
      ∀ c ∈ after, isBlank c = true := by
  refine ⟨cs.takeWhile isBlank, (cs.dropWhile isBlank).rtakeWhile isBlank, ?_,
    fun c => List.mem_takeWhile_imp, fun c => List.mem_rtakeWhile_imp⟩
  change _ ++ (cs.dropWhile isBlank).rdropWhile isBlank ++ _ = _
  rw [List.append_assoc, List.rdropWhile_append_rtakeWhile, List.takeWhile_append_dropWhile]

theorem dropWhile_append_of_none {α : Type} {test : α → Bool} {before core : List α}
    (hbefore : ∀ x ∈ before, test x = true) (hcore : ∀ x ∈ core, test x = false) (hne : core ≠ [])
    (after : List α) : (before ++ (core ++ after)).dropWhile test = core ++ after := by
  obtain ⟨x, rest, rfl⟩ := List.exists_cons_of_ne_nil hne
  rw [List.dropWhile_append_of_pos hbefore, List.cons_append, List.dropWhile_cons_of_neg]
  simp [hcore x List.mem_cons_self]

/-- All blanks around are cut off. -/
theorem strip_append {before core after : List Char} (hbefore : ∀ c ∈ before, isBlank c = true)
    (hcore : ∀ c ∈ core, isBlank c = false) (hne : core ≠ [])
    (hafter : ∀ c ∈ after, isBlank c = true) : strip (before ++ core ++ after) = core := by
  have hback : (core ++ after).reverse.dropWhile isBlank = core.reverse := by
    have hdrop : (after.reverse ++ (core.reverse ++ [])).dropWhile isBlank = core.reverse ++ [] :=
      dropWhile_append_of_none (by simpa using hafter) (by simpa using hcore) (by simpa using hne)
        []
    simpa using hdrop
  rw [strip, List.append_assoc, dropWhile_append_of_none hbefore hcore hne, hback,
    List.reverse_reverse]

theorem isBlank_of_isDigit {c : Char} (h : c.isDigit = true) : isBlank c = false := by
  have hrange : 48 ≤ c.toNat ∧ c.toNat ≤ 57 := by
    simpa [Char.isDigit, UInt32.le_iff_toNat_le] using h
  unfold isBlank
  simp
  omega

/-! ## Numerals -/

/-- What may stand around the digits of a number. -/
structure Frame where
  before : List Char
  plus : Bool
  after : List Char
  blank_before : ∀ c ∈ before, isBlank c = true
  blank_after : ∀ c ∈ after, isBlank c = true

/-- A number as it may be written. -/
structure Numeral extends Frame where
  digits : List Char
  digits_ne_nil : digits ≠ []
  isDigit_digits : ∀ c ∈ digits, c.isDigit = true

namespace Numeral

def value (m : Numeral) : Nat := Nat.ofDigitChars 10 m.digits 0

/-- The numeral without its blanks. -/
def core (m : Numeral) : List Char := if m.plus then '+' :: m.digits else m.digits

def text (m : Numeral) : String := String.ofList (m.before ++ m.core ++ m.after)

theorem core_ne_nil (m : Numeral) : m.core ≠ [] := by
  unfold core
  split
  · exact List.cons_ne_nil _ _
  · exact m.digits_ne_nil

theorem not_isBlank_core (m : Numeral) : ∀ c ∈ m.core, isBlank c = false := by
  have hdigits : ∀ c ∈ m.digits, isBlank c = false := fun c hc =>
    isBlank_of_isDigit (m.isDigit_digits c hc)
  unfold core
  split
  · exact List.forall_mem_cons.mpr ⟨by decide, hdigits⟩
  · exact hdigits

theorem strip_text (m : Numeral) : strip m.text.toList = m.core := by
  rw [text, String.toList_ofList]
  exact strip_append m.blank_before m.not_isBlank_core m.core_ne_nil m.blank_after

end Numeral

/-! ## Reading -/

theorem readDigits_eq_some_iff (cs : List Char) (n : Nat) :
    readDigits cs = some n ↔
      (cs ≠ [] ∧ ∀ c ∈ cs, c.isDigit = true) ∧ Nat.ofDigitChars 10 cs 0 = n := by
  simp [readDigits]

theorem readUnsigned_of_no_plus {cs : List Char} (h : ∀ rest, cs ≠ '+' :: rest) :
    readUnsigned cs = readDigits cs := by
  unfold readUnsigned
  split
  · exact absurd rfl (h _)
  · rfl

namespace Numeral

theorem readUnsigned_core (m : Numeral) : readUnsigned m.core = some m.value := by
  have hread : readDigits m.digits = some m.value :=
    (readDigits_eq_some_iff _ _).mpr ⟨⟨m.digits_ne_nil, m.isDigit_digits⟩, rfl⟩
  unfold core
  split
  · exact hread
  · rw [readUnsigned_of_no_plus, hread]
    intro rest hdigits
    have hplus := m.isDigit_digits '+' (by simp [hdigits])
    exact absurd hplus (by decide)

theorem exists_of_readUnsigned {cs : List Char} {n : Nat} (h : readUnsigned (strip cs) = some n) :
    ∃ m : Numeral, m.text = String.ofList cs ∧ m.value = n := by
  obtain ⟨before, after, hcs, hbefore, hafter⟩ := exists_strip cs
  by_cases hplus : ∃ rest, strip cs = '+' :: rest
  · obtain ⟨rest, hrest⟩ := hplus
    rw [hrest, readUnsigned, readDigits_eq_some_iff] at h
    obtain ⟨⟨hne, hdigits⟩, hvalue⟩ := h
    refine ⟨⟨⟨before, true, after, hbefore, hafter⟩, rest, hne, hdigits⟩, ?_, hvalue⟩
    rw [← hcs, hrest]
    rfl
  · rw [readUnsigned_of_no_plus fun rest hrest => hplus ⟨rest, hrest⟩, readDigits_eq_some_iff] at h
    obtain ⟨⟨hne, hdigits⟩, hvalue⟩ := h
    refine ⟨⟨⟨before, false, after, hbefore, hafter⟩, strip cs, hne, hdigits⟩, ?_, hvalue⟩
    exact congrArg String.ofList hcs

end Numeral

/-- A text is read exactly if it is a numeral, and its value lies between 1 and the limit. -/
theorem readPositive_eq_some_iff (limit : Nat) (text : String) (n : Nat) :
    readPositive limit text.toList = some n ↔
      ∃ m : Numeral, m.text = text ∧ m.value = n ∧ 1 ≤ n ∧ n ≤ limit := by
  rw [readPositive, Option.filter_eq_some_iff, Bool.and_eq_true, decide_eq_true_iff,
    decide_eq_true_iff]
  constructor
  · rintro ⟨hread, hrange⟩
    obtain ⟨m, htext, hvalue⟩ := Numeral.exists_of_readUnsigned hread
    exact ⟨m, by rw [htext, String.ofList_toList], hvalue, hrange⟩
  · rintro ⟨m, rfl, rfl, hrange⟩
    rw [m.strip_text, m.readUnsigned_core]
    exact ⟨rfl, hrange⟩

/-! ## Writing -/

/-- Writes a number in decimal, with zeros before it. -/
def Frame.write (f : Frame) (zeros n : Nat) : Numeral where
  toFrame := f
  digits := List.replicate zeros '0' ++ Nat.toDigits 10 n
  digits_ne_nil := List.append_ne_nil_of_right_ne_nil _ Nat.toDigits_ne_nil
  isDigit_digits c hc := by
    rcases List.mem_append.mp hc with hc | hc
    · rw [List.eq_of_mem_replicate hc]
      rfl
    · exact Nat.isDigit_of_mem_toDigits (by decide) (by decide) hc

theorem ofDigitChars_replicate_zero (zeros : Nat) :
    Nat.ofDigitChars 10 (List.replicate zeros '0') 0 = 0 := by
  induction zeros with
  | zero => rfl
  | succ zeros ih =>
    rw [List.replicate_succ, Nat.ofDigitChars_cons]
    exact ih

@[simp] theorem Frame.value_write (f : Frame) (zeros n : Nat) : (f.write zeros n).value = n := by
  rw [Numeral.value, write, Nat.ofDigitChars_append, ofDigitChars_replicate_zero,
    Nat.ofDigitChars_ten_toDigits]

end Typecase.Text
