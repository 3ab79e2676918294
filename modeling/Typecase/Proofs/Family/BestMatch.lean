import Mathlib.Algebra.Ring.Int.Defs
import Mathlib.Data.List.Induction
import Mathlib.Data.Prod.Lex
import Mathlib.Tactic.SplitIfs
import Typecase.Family

/-!
# The first of the best

`bestMatch` compares cuts by one number, which holds two gaps. Their order is that of the gaps one
after the other: the weight first and then the slant. Between equals the place in the list decides.
-/

namespace Typecase

/-! ## The order -/

namespace Cut

/-- What speaks against a cut: the distance of its weight, and then a slant that was not asked
for. -/
def misfit (c : Cut) (s : Style) : ℕ ×ₗ Bool :=
  toLex (((c.weight.toNat : ℤ) - s.weight.toNat).natAbs, c.italic != s.isItalic)

/-- The place in the list decides between cuts that fit equally well. -/
def rank (c : Cut) (s : Style) (place : ℕ) : (ℕ ×ₗ Bool) ×ₗ ℕ := toLex (c.misfit s, place)

theorem weightGap_eq (c : Cut) (s : Style) :
    c.weightGap s = ((c.weight.toNat : ℤ) - s.weight.toNat).natAbs := by
  unfold weightGap
  omega

theorem slantGap_eq (c : Cut) (s : Style) : c.slantGap s = (c.italic != s.isItalic).toNat := by
  unfold slantGap
  cases c.italic <;> cases s.isItalic <;> rfl

/-- One number is as good as two: all that the slant can add is less than what one step of weight
does. -/
theorem distance_lt_iff (c c' : Cut) (s : Style) :
    c.distance s < c'.distance s ↔ c.misfit s < c'.misfit s := by
  unfold distance misfit
  rw [Prod.Lex.toLex_lt_toLex, weightGap_eq, weightGap_eq, slantGap_eq, slantGap_eq]
  generalize ((c.weight.toNat : ℤ) - s.weight.toNat).natAbs = gap
  generalize ((c'.weight.toNat : ℤ) - s.weight.toNat).natAbs = gap'
  cases c.italic != s.isItalic <;> cases c'.italic != s.isItalic <;> simp [Bool.lt_iff] <;> omega

theorem rank_le_iff (c c' : Cut) (s : Style) (i j : ℕ) :
    c.rank s i ≤ c'.rank s j ↔
      c.misfit s < c'.misfit s ∨ c.misfit s = c'.misfit s ∧ i ≤ j :=
  Prod.Lex.toLex_le_toLex

/-! ## The distance in words -/

/-- The number as a signed word of 32 bits, if there is a word for it. -/
def word? (n : ℤ) : Option Int32 :=
  if Int32.minValue.toInt ≤ n ∧ n ≤ Int32.maxValue.toInt then some (Int32.ofInt n) else none

theorem exists_word {n : ℤ} (hlow : -2 ^ 31 ≤ n) (hhigh : n < 2 ^ 31) :
    ∃ w, word? n = some w ∧ w.toInt = n := by
  refine ⟨Int32.ofInt n, if_pos ?_, Int32.toInt_ofInt_of_le hlow hhigh⟩
  have hmin : Int32.minValue.toInt = -2 ^ 31 := rfl
  have hmax : Int32.maxValue.toInt = 2 ^ 31 - 1 := rfl
  omega

/-- The distance as signed words of 32 bits compute it. There must be a word for each value on the
way. -/
def distance? (c : Cut) (s : Style) : Option Int32 := do
  let weight ← word? c.weight.toNat
  let wanted ← word? s.weight.toNat
  let difference ← word? (weight.toInt - wanted.toInt)
  let gap ← word? difference.toInt.natAbs
  let doubled ← word? (gap.toInt * 2)
  let slant ← word? (if c.italic = s.isItalic then 0 else 1)
  word? (doubled.toInt + slant.toInt)

theorem exists_distance (c : Cut) (s : Style) :
    ∃ d, c.distance? s = some d ∧ d.toInt = c.distance s := by
  have hc := c.weight.toNat_lt
  have hs := s.weight.toNat_lt
  have hslant : (if c.italic = s.isItalic then 0 else 1 : ℤ) = c.slantGap s := by
    unfold slantGap
    split <;> rfl
  have hslant_le : c.slantGap s ≤ 1 := by
    unfold slantGap
    split <;> omega
  obtain ⟨weight, hweight, hweight_eq⟩ := exists_word (n := c.weight.toNat) (by omega) (by omega)
  obtain ⟨wanted, hwanted, hwanted_eq⟩ := exists_word (n := s.weight.toNat) (by omega) (by omega)
  obtain ⟨difference, hdifference, hdifference_eq⟩ :=
    exists_word (n := weight.toInt - wanted.toInt) (by omega) (by omega)
  obtain ⟨gap, hgap, hgap_eq⟩ :=
    exists_word (n := difference.toInt.natAbs) (by omega) (by omega)
  obtain ⟨doubled, hdoubled, hdoubled_eq⟩ :=
    exists_word (n := gap.toInt * 2) (by omega) (by omega)
  obtain ⟨slant, hslantw, hslant_eq⟩ :=
    exists_word (n := if c.italic = s.isItalic then 0 else 1) (by omega) (by omega)
  obtain ⟨d, hd, hd_eq⟩ :=
    exists_word (n := doubled.toInt + slant.toInt) (by omega) (by omega)
  refine ⟨d, ?_, ?_⟩
  · simp only [distance?, hweight, hwanted, hdifference, hgap, hdoubled, hslantw, hd, bind,
      Option.bind]
  · unfold distance weightGap
    omega

end Cut

variable {α : Type} {cut : α → Cut} {s : Style}

/-! ## Two lists in a row -/

@[simp] theorem bestMatch_nil : bestMatch cut s [] = none := rfl

@[simp] theorem bestMatch_singleton (a : α) : bestMatch cut s [a] = some a := rfl

theorem nearer_eq (a b : α) :
    nearer cut s a b = if (cut b).misfit s < (cut a).misfit s then b else a := by
  simp only [nearer, Cut.distance_lt_iff]

instance : Std.Associative (nearer cut s) where
  assoc a b c := by
    unfold nearer
    split_ifs <;> first | rfl | omega

/-- What is picked from the second list wins only if it is nearer. -/
theorem bestMatch_append (xs ys : List α) :
    bestMatch cut s (xs ++ ys) =
      (bestMatch cut s xs).merge (nearer cut s) (bestMatch cut s ys) := by
  cases xs with
  | nil => simp [bestMatch]
  | cons a xs =>
    cases ys with
    | nil => simp [bestMatch]
    | cons b ys => simp [bestMatch, List.foldl_assoc]

theorem bestMatch_eq_none_iff (xs : List α) : bestMatch cut s xs = none ↔ xs = [] := by
  cases xs <;> simp [bestMatch]

theorem bestMatch_map {β : Type} (f : β → α) (xs : List β) :
    bestMatch cut s (xs.map f) = (bestMatch (fun b => cut (f b)) s xs).map f := by
  cases xs with
  | nil => rfl
  | cons b xs =>
    have hnearer : ∀ x y, nearer cut s (f x) (f y) = f (nearer (fun b => cut (f b)) s x y) := by
      intro x y
      unfold nearer
      split <;> rfl
    simp only [List.map_cons, bestMatch, List.foldl_map, Option.map_some]
    rw [List.foldl_hom f hnearer]

/-! ## The first of the best -/

/-- The element at this place passes the test, and none that does has a lower rank. -/
structure FirstBest (cut : α → Cut) (s : Style) (test : α → Bool) (xs : List α) (i : ℕ) (a : α) :
    Prop where
  at_place : xs[i]? = some a
  passes : test a = true
  least : ∀ j b, xs[j]? = some b → test b = true → (cut a).rank s i ≤ (cut b).rank s j

theorem getElem?_snoc_eq_some_iff (xs : List α) (a : α) (j : ℕ) (b : α) :
    (xs ++ [a])[j]? = some b ↔ xs[j]? = some b ∨ j = xs.length ∧ b = a := by
  grind

namespace FirstBest

variable {test : α → Bool} {xs : List α} {i j : ℕ} {a b : α}

theorem unique (h : FirstBest cut s test xs i a) (h' : FirstBest cut s test xs j b) : b = a := by
  have hle := (Cut.rank_le_iff _ _ _ _ _).mp (h.least j b h'.at_place h'.passes)
  have hge := (Cut.rank_le_iff _ _ _ _ _).mp (h'.least i a h.at_place h.passes)
  obtain rfl : i = j := by
    rcases hle with hlt | ⟨heq, hij⟩
    · rcases hge with hgt | ⟨heq, -⟩
      · exact absurd hgt hlt.asymm
      · exact absurd heq hlt.ne'
    · rcases hge with hgt | ⟨-, hji⟩
      · exact absurd heq hgt.ne'
      · omega
  exact Option.some.inj (h'.at_place.symm.trans h.at_place)

theorem misfit_le (h : FirstBest cut s test xs i a) (hb : b ∈ xs) (hpasses : test b = true) :
    (cut a).misfit s ≤ (cut b).misfit s := by
  obtain ⟨j, hj⟩ := List.mem_iff_getElem?.mp hb
  rcases (Cut.rank_le_iff _ _ _ _ _).mp (h.least j b hj hpasses) with hlt | ⟨heq, -⟩
  · exact hlt.le
  · exact heq.le

/-- That others pass no longer changes nothing. -/
theorem of_fewer {test' : α → Bool} (h : FirstBest cut s test xs i a) (hpasses : test' a = true)
    (hfewer : ∀ b, test' b = true → test b = true) : FirstBest cut s test' xs i a :=
  ⟨h.at_place, hpasses, fun j b hj hb => h.least j b hj (hfewer b hb)⟩

/-- One more element changes nothing if it does not pass, or does not fit better. -/
theorem snoc (h : FirstBest cut s test xs i a)
    (hb : test b = true → (cut a).misfit s ≤ (cut b).misfit s) :
    FirstBest cut s test (xs ++ [b]) i a := by
  have hi : i < xs.length := (List.getElem?_eq_some_iff.mp h.at_place).1
  refine ⟨by rw [List.getElem?_append_left hi, h.at_place], h.passes, ?_⟩
  intro j c hj hc
  rcases (getElem?_snoc_eq_some_iff _ _ _ _).mp hj with hj | ⟨rfl, rfl⟩
  · exact h.least j c hj hc
  · rw [Cut.rank_le_iff]
    rcases (hb hc).lt_or_eq with hlt | heq
    · exact .inl hlt
    · exact .inr ⟨heq, hi.le⟩

/-- The new element is the best if it fits better than all that pass. -/
theorem of_last (hpasses : test b = true)
    (h : ∀ c ∈ xs, test c = true → (cut b).misfit s < (cut c).misfit s) :
    FirstBest cut s test (xs ++ [b]) xs.length b := by
  refine ⟨List.getElem?_concat_length, hpasses, ?_⟩
  intro j c hj hc
  rw [Cut.rank_le_iff]
  rcases (getElem?_snoc_eq_some_iff _ _ _ _).mp hj with hj | ⟨rfl, rfl⟩
  · exact .inl (h c (List.mem_of_getElem? hj) hc)
  · exact .inr ⟨rfl, le_rfl⟩

end FirstBest

variable {test : α → Bool}

theorem exists_firstBest {xs : List α} {a : α}
    (h : bestMatch cut s (xs.filter test) = some a) : ∃ i, FirstBest cut s test xs i a := by
  induction xs using List.reverseRecOn generalizing a with
  | nil => simp at h
  | append_singleton xs b ih =>
    rw [List.filter_append, bestMatch_append] at h
    by_cases hb : test b = true
    · rw [List.filter_cons_of_pos hb, List.filter_nil, bestMatch_singleton] at h
      cases hpick : bestMatch cut s (xs.filter test) with
      | none =>
        -- Nothing before passes the test.
        rw [hpick] at h
        cases h
        rw [bestMatch_eq_none_iff, List.filter_eq_nil_iff] at hpick
        exact ⟨xs.length, .of_last hb fun c hc hpasses => absurd hpasses (hpick c hc)⟩
      | some a' =>
        obtain ⟨i, hi⟩ := ih hpick
        rw [hpick, Option.merge_some_some, nearer_eq, Option.some.injEq] at h
        split at h
        · rename_i hbetter
          subst h
          refine ⟨xs.length, .of_last hb fun c hc hpasses => ?_⟩
          exact hbetter.trans_le (hi.misfit_le hc hpasses)
        · rename_i hbetter
          subst h
          exact ⟨i, hi.snoc fun _ => not_lt.mp hbetter⟩
    · rw [List.filter_cons_of_neg hb, List.filter_nil, bestMatch_nil, Option.merge_none_right] at h
      obtain ⟨i, hi⟩ := ih h
      exact ⟨i, hi.snoc fun hpasses => absurd hpasses hb⟩

/-- What is picked from the elements that pass is told by the places in the whole list. -/
theorem bestMatch_filter_eq_some_iff (xs : List α) (a : α) :
    bestMatch cut s (xs.filter test) = some a ↔ ∃ i, FirstBest cut s test xs i a := by
  refine ⟨exists_firstBest, ?_⟩
  rintro ⟨i, hi⟩
  have ha : a ∈ xs.filter test :=
    List.mem_filter.mpr ⟨List.mem_of_getElem? hi.at_place, hi.passes⟩
  cases hpick : bestMatch cut s (xs.filter test) with
  | none =>
    rw [bestMatch_eq_none_iff] at hpick
    rw [hpick] at ha
    cases ha
  | some b =>
    obtain ⟨j, hj⟩ := exists_firstBest hpick
    rw [hi.unique hj]

theorem bestMatch_eq_some_iff (xs : List α) (a : α) :
    bestMatch cut s xs = some a ↔ ∃ i, FirstBest cut s (fun _ => true) xs i a := by
  rw [← bestMatch_filter_eq_some_iff, List.filter_eq_self.mpr fun _ _ => rfl]

/-! ## What counts of the style -/

theorem Cut.distance_congr {s' : Style} (hbold : s'.isBold = s.isBold)
    (hitalic : s'.isItalic = s.isItalic) (c : Cut) : c.distance s' = c.distance s := by
  have hweight : s'.weight = s.weight := by rw [Style.weight, Style.weight, hbold]
  simp only [distance, weightGap, slantGap, hweight, hitalic]

theorem bestMatch_congr {s' : Style} (hbold : s'.isBold = s.isBold)
    (hitalic : s'.isItalic = s.isItalic) (xs : List α) :
    bestMatch cut s' xs = bestMatch cut s xs := by
  have hnearer : nearer cut s' = nearer cut s := by
    funext a b
    simp only [nearer, Cut.distance_congr hbold hitalic]
  cases xs with
  | nil => rfl
  | cons a xs => rw [bestMatch, bestMatch, hnearer]

/-- A negative code asks for nothing, whatever its bits are. -/
theorem Style.plain_of_negative (h : s.code < 0) : s.isBold = false ∧ s.isItalic = false := by
  have hnot : decide (0 ≤ s.code) = false := by
    rw [decide_eq_false_iff_not, Int32.not_le]
    exact h
  simp [isBold, isItalic, hnot]

/-- **The first of the best.** A pick is the least element in the order of weight, slant and place,
and only an empty list has none. The one number that the order is packed into is right and fits a
signed word of 32 bits, and so does each value on the way. Of two lists in a row, the second gives
the pick only if its own fits better. Of the style only the two flags count, and a negative one has
none. -/
theorem best_match_is_first_best (cut : α → Cut) (s : Style) (xs : List α) :
    (bestMatch cut s xs = none ↔ xs = []) ∧
    (∀ a, bestMatch cut s xs = some a ↔ ∃ i, FirstBest cut s (fun _ => true) xs i a) ∧
    (∀ c c' : Cut, c.distance s < c'.distance s ↔ c.misfit s < c'.misfit s) ∧
    (∀ c : Cut, ∃ d, c.distance? s = some d ∧ d.toInt = c.distance s) ∧
    (∀ ys, bestMatch cut s (xs ++ ys) =
      match bestMatch cut s xs, bestMatch cut s ys with
      | some a, some b => if (cut b).misfit s < (cut a).misfit s then some b else some a
      | some a, none => some a
      | none, pick => pick) ∧
    (∀ s' : Style, s'.isBold = s.isBold → s'.isItalic = s.isItalic →
      bestMatch cut s' xs = bestMatch cut s xs) ∧
    (s.code < 0 → bestMatch cut s xs = bestMatch cut .normal xs) := by
  refine ⟨bestMatch_eq_none_iff xs, bestMatch_eq_some_iff xs, ?_, ?_, ?_, ?_, ?_⟩
  · exact fun c c' => c.distance_lt_iff c' s
  · exact fun c => c.exists_distance s
  · intro ys
    rw [bestMatch_append]
    cases bestMatch cut s xs with
    | none => simp
    | some a =>
      cases bestMatch cut s ys with
      | none => rfl
      | some b =>
        simp only [Option.merge_some_some, nearer_eq]
        split <;> rfl
  · exact fun s' hbold hitalic => bestMatch_congr hbold hitalic xs
  · intro hnegative
    obtain ⟨hbold, hitalic⟩ := Style.plain_of_negative hnegative
    exact bestMatch_congr hbold hitalic xs

/-- A slant costs less than one step of weight, and bits of a negative style do not count. -/
theorem first_regular_is_picked :
    let fonts : List FontFile := [⟨⟨401, false⟩, 1, 0, none⟩, ⟨⟨400, true⟩, 2, 0, none⟩,
      ⟨⟨400, false⟩, 3, 0, none⟩, ⟨⟨400, false⟩, 4, 0, none⟩]
    let pick := fun code => bestMatch FontFile.cut ⟨code⟩ fonts
    ((-2 : Int32) < 0 ∧ pick (-2) = pick 0 ∧ pick 0 = some ⟨⟨400, false⟩, 3, 0, none⟩) ∧
    (⟨6⟩ : Style).isBold = Style.italic.isBold ∧ (⟨6⟩ : Style).isItalic = Style.italic.isItalic ∧
      pick 6 = pick 2 ∧ pick 2 = some ⟨⟨400, true⟩, 2, 0, none⟩ := by
  intro fonts pick
  have hnegative := (best_match_is_first_best FontFile.cut ⟨-2⟩ fonts).2.2.2.2.2.2 (by decide)
  have hflags := (best_match_is_first_best FontFile.cut .italic fonts).2.2.2.2.2.1 ⟨6⟩
    (by decide) (by decide)
  exact ⟨⟨by decide, hnegative, by decide⟩, by decide, by decide, hflags, by decide⟩

end Typecase
