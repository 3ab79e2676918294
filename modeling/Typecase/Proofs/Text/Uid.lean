import Typecase.Note
import Typecase.Proofs.Text.Trailing

/-!
# Uid texts

A package may hold hyphens and digits, and a style below zero starts with a hyphen itself. A uid
text still has one reading only, from its end: the digits of the style, its sign, the id, the
package.
-/

namespace Typecase

open Text

namespace Style

/-- What stands before the digits of a style. -/
def sign (s : Style) : List Char := if s.code.toInt < 0 then ['-'] else []

theorem toList_text (s : Style) :
    s.text.toList = s.sign ++ Nat.toDigits 10 s.code.toInt.natAbs := by
  rw [text, sign, Int.toString_eq_repr]
  cases s.code.toInt with
  | ofNat n => simp [Int.repr, Nat.toList_repr]
  | negSucc n => simp [Int.repr, Nat.toList_repr, Int.negSucc_lt_zero]

theorem eq_of_sign_of_natAbs {s s' : Style} (hsign : s.sign = s'.sign)
    (hsize : s.code.toInt.natAbs = s'.code.toInt.natAbs) : s = s' := by
  have hbelow : s.code.toInt < 0 ↔ s'.code.toInt < 0 := by
    unfold sign at hsign
    by_cases h : s.code.toInt < 0 <;> by_cases h' : s'.code.toInt < 0 <;> simp [h, h'] at hsign ⊢
  have hcode : s.code.toInt = s'.code.toInt := by omega
  cases s
  cases s'
  exact congrArg Style.mk (Int32.toInt_inj.mp hcode)

theorem eq_hyphen_of_mem_sign {s : Style} {c : Char} (h : c ∈ s.sign) : c = '-' := by
  unfold sign at h
  split at h <;> simp at h
  exact h

/-- Whether or not there is a sign, a hyphen stands last. -/
theorem endsInDigit_append_sign (front : List Char) (s : Style) :
    endsInDigit (front ++ '-' :: s.sign) = false := by
  unfold sign
  split <;> simp [endsInDigit]

/-- After a digit, all hyphens but the first are the sign. -/
theorem rtakeWhile_append_sign {front : List Char} (h : endsInDigit front = true) (s : Style) :
    (front ++ '-' :: s.sign).rtakeWhile (· == '-') = '-' :: s.sign := by
  have hhyphens : ∀ c ∈ '-' :: s.sign, (c == '-') = true := by
    intro c hc
    rcases List.mem_cons.mp hc with rfl | hc
    · rfl
    · simp [eq_hyphen_of_mem_sign hc]
  have hfront : front.rtakeWhile (· == '-') = [] := by
    rw [List.rtakeWhile_eq_nil_iff]
    intro hne hlast
    rw [endsInDigit, List.getLast?_eq_some_getLast hne, eq_of_beq hlast] at h
    exact absurd h (by decide)
  rw [rtakeWhile_append_of_all front hhyphens, hfront, List.nil_append]

end Style

namespace ResourceKey

/-- What stands before the style in a uid text. -/
def origin (k : ResourceKey) : List Char := k.package.toList ++ ['-'] ++ Nat.toDigits 10 k.id.toNat

theorem toList_text (k : ResourceKey) :
    k.text.toList =
      (k.origin ++ '-' :: k.style.sign) ++ Nat.toDigits 10 k.style.code.toInt.natAbs := by
  simp [text, origin, Style.toList_text]

theorem endsInDigit_origin (k : ResourceKey) : endsInDigit k.origin = true := by
  rw [origin, endsInDigit_append_toDigits]

theorem origin_inj {k k' : ResourceKey} (h : k.origin = k'.origin) :
    k.package = k'.package ∧ k.id = k'.id := by
  obtain ⟨hpackage, hid⟩ :=
    append_toDigits_inj (endsInDigit_append_hyphen _) (endsInDigit_append_hyphen _) h
  exact ⟨String.toList_inj.mp (List.append_cancel_right hpackage), UInt32.toNat_inj.mp hid⟩

theorem eq_of_text_eq {k k' : ResourceKey} (h : k.text = k'.text) : k = k' := by
  rw [← String.toList_inj, toList_text, toList_text] at h
  obtain ⟨hfront, hsize⟩ := append_toDigits_inj (Style.endsInDigit_append_sign _ _)
    (Style.endsInDigit_append_sign _ _) h
  -- The origin ends in a digit, so the hyphens behind it are the separator and the sign.
  have hsigns : '-' :: k.style.sign = '-' :: k'.style.sign := by
    rw [← Style.rtakeWhile_append_sign k.endsInDigit_origin, hfront,
      Style.rtakeWhile_append_sign k'.endsInDigit_origin]
  rw [hsigns] at hfront
  obtain ⟨hpackage, hid⟩ := origin_inj (List.append_cancel_right hfront)
  have hstyle := Style.eq_of_sign_of_natAbs (List.cons.inj hsigns).2 hsize
  cases k
  cases k'
  cases hpackage
  cases hid
  cases hstyle
  rfl

theorem text_eq_iff (k k' : ResourceKey) : k.text = k'.text ↔ k = k' :=
  ⟨eq_of_text_eq, congrArg text⟩

/-- **A uid text identifies its key.** Two keys are written alike only if they are the same key, so
a log line of the cache names one key and no other. -/
theorem uid_identifies_key (k k' : ResourceKey) :
    (k.text = k'.text ↔ k = k') ∧
    ∀ about : ResourceKey → Note, about ∈ [Note.cacheHit, Note.caching, Note.evicted] →
      ((about k).line = (about k').line ↔ k = k') := by
  refine ⟨text_eq_iff k k', fun about habout => ?_⟩
  rw [← text_eq_iff]
  simp only [List.mem_cons, List.not_mem_nil, or_false] at habout
  rcases habout with rfl | rfl | rfl
  all_goals
    unfold Note.line Note.message
    exact (String.append_right_inj _).trans (String.append_right_inj _)

/-- What a package ends in and a style starts with do not run together. -/
example : (⟨"a-1", 2, ⟨0⟩⟩ : ResourceKey).text = "a-1-2-0" ∧
    (⟨"a", 1, ⟨-2⟩⟩ : ResourceKey).text = "a-1--2" := by
  decide +kernel

end ResourceKey

end Typecase
