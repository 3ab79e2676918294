import Mathlib.Data.List.DropRight
import Typecase.Text.Numeral

/-!
# Numbers at the end of a text

A text with a number after something that is not a digit can be read back from its end.
-/

namespace Typecase.Text

theorem rtakeWhile_append_of_all {α : Type} {test : α → Bool} (front : List α) {back : List α}
    (h : ∀ x ∈ back, test x = true) :
    (front ++ back).rtakeWhile test = front.rtakeWhile test ++ back := by
  have hall : ∀ x ∈ back.reverse, test x = true := fun x hx => h x (List.mem_reverse.mp hx)
  rw [List.rtakeWhile, List.reverse_append, List.takeWhile_append_of_pos hall, List.reverse_append,
    List.reverse_reverse, List.rtakeWhile]

def endsInDigit (cs : List Char) : Bool := cs.getLast?.any Char.isDigit

theorem rtakeWhile_isDigit_eq_nil_iff (cs : List Char) :
    cs.rtakeWhile Char.isDigit = [] ↔ endsInDigit cs = false := by
  rcases List.eq_nil_or_concat cs with rfl | ⟨front, c, rfl⟩
  · simp [endsInDigit]
  · by_cases hc : c.isDigit
    · simp [endsInDigit, hc, List.rtakeWhile_concat_pos]
    · simp [endsInDigit, hc, List.rtakeWhile_concat_neg]

theorem endsInDigit_of_suffix {back cs : List Char} (h : back <:+ cs)
    (hcs : endsInDigit cs = false) : endsInDigit back = false := by
  obtain ⟨front, rfl⟩ := h
  rcases List.eq_nil_or_concat back with rfl | ⟨init, c, rfl⟩
  · rfl
  · simpa [endsInDigit] using hcs

theorem rtakeWhile_isDigit_append_toDigits {front : List Char} (h : endsInDigit front = false)
    (n : Nat) : (front ++ Nat.toDigits 10 n).rtakeWhile Char.isDigit = Nat.toDigits 10 n := by
  have hdigits : ∀ c ∈ Nat.toDigits 10 n, c.isDigit = true := fun c hc =>
    Nat.isDigit_of_mem_toDigits (by decide) (by decide) hc
  rw [rtakeWhile_append_of_all front hdigits, (rtakeWhile_isDigit_eq_nil_iff front).mpr h,
    List.nil_append]

theorem toDigits_inj {n n' : Nat} (h : Nat.toDigits 10 n = Nat.toDigits 10 n') : n = n' :=
  calc
    n = Nat.ofDigitChars 10 (Nat.toDigits 10 n) 0 := Nat.ofDigitChars_ten_toDigits.symm
    _ = Nat.ofDigitChars 10 (Nat.toDigits 10 n') 0 := by rw [h]
    _ = n' := Nat.ofDigitChars_ten_toDigits

/-- What stands before a number and the number itself can be told from the text. -/
theorem append_toDigits_inj {front front' : List Char} {n n' : Nat}
    (h : endsInDigit front = false) (h' : endsInDigit front' = false)
    (heq : front ++ Nat.toDigits 10 n = front' ++ Nat.toDigits 10 n') : front = front' ∧ n = n' := by
  have hdigits : Nat.toDigits 10 n = Nat.toDigits 10 n' := by
    rw [← rtakeWhile_isDigit_append_toDigits h, heq, rtakeWhile_isDigit_append_toDigits h']
  rw [hdigits] at heq
  exact ⟨List.append_cancel_right heq, toDigits_inj hdigits⟩

/-- One front for both numbers is as good as two that end in no digit. -/
theorem append_toDigits_inj_of_alike {front front' : List Char} {n n' : Nat}
    (h : front = front' ∨ endsInDigit front = false ∧ endsInDigit front' = false)
    (heq : front ++ Nat.toDigits 10 n = front' ++ Nat.toDigits 10 n') : front = front' ∧ n = n' := by
  rcases h with rfl | ⟨h, h'⟩
  · exact ⟨rfl, toDigits_inj (List.append_cancel_left heq)⟩
  · exact append_toDigits_inj h h' heq

theorem endsInDigit_append_toDigits (front : List Char) (n : Nat) :
    endsInDigit (front ++ Nat.toDigits 10 n) = true := by
  have hlast := Nat.isDigit_of_mem_toDigits (b := 10) (n := n) (by decide) (by decide)
    (List.getLast_mem Nat.toDigits_ne_nil)
  rw [endsInDigit, List.getLast?_append_of_ne_nil _ Nat.toDigits_ne_nil,
    List.getLast?_eq_some_getLast Nat.toDigits_ne_nil, Option.any_some, hlast]

theorem endsInDigit_append_hyphen (cs : List Char) : endsInDigit (cs ++ ['-']) = false := by
  simp [endsInDigit]

end Typecase.Text
