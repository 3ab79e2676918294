import Typecase.Proofs.Files.Child
import Typecase.Staging.Stager

/-!
# Temp names of different stagers

A temp name ends in three numbers. They can be read back from the end, and with them who made it.
-/

namespace Typecase

open Text

namespace Identity

/-- What comes after the stem in a temp name. -/
def tag (who : Identity) (attempt : Nat) : List Char :=
  Nat.toDigits 10 who.pid ++ '-' :: (Nat.toDigits 10 who.tid ++ '-' :: Nat.toDigits 10 attempt)

theorem toList_tempName (stem : String) (who : Identity) (attempt : Nat) :
    (tempName stem who attempt).toList = stem.toList ++ who.tag attempt := by
  simp [tempName, tag]

theorem append_tag_inj {front front' : List Char} {who who' : Identity} {attempt attempt' : Nat}
    (h : front ++ who.tag attempt = front' ++ who'.tag attempt') :
    front ++ Nat.toDigits 10 who.pid = front' ++ Nat.toDigits 10 who'.pid ∧
      who.tid = who'.tid ∧ attempt = attempt' := by
  have hlast : ∀ (front : List Char) (who : Identity) attempt, front ++ who.tag attempt =
      (((front ++ Nat.toDigits 10 who.pid) ++ ['-']) ++ Nat.toDigits 10 who.tid ++ ['-']) ++
        Nat.toDigits 10 attempt := by
    intro front who attempt
    simp [tag]
  rw [hlast, hlast] at h
  obtain ⟨hfront, hattempt⟩ :=
    append_toDigits_inj (endsInDigit_append_hyphen _) (endsInDigit_append_hyphen _) h
  obtain ⟨hfront, htid⟩ := append_toDigits_inj (endsInDigit_append_hyphen _)
    (endsInDigit_append_hyphen _) (List.append_cancel_right hfront)
  exact ⟨List.append_cancel_right hfront, htid, hattempt⟩

theorem eq_of_parts {who who' : Identity} (hpid : who.pid = who'.pid) (htid : who.tid = who'.tid) :
    who = who' := by
  cases who
  cases who'
  exact congrArg₂ Identity.mk hpid htid

theorem append_tag_eq_iff (front front' : List Char) (who who' : Identity)
    (attempt attempt' : Nat) :
    front ++ who.tag attempt = front' ++ who'.tag attempt' ↔
      who.tid = who'.tid ∧ attempt = attempt' ∧
        front ++ Nat.toDigits 10 who.pid = front' ++ Nat.toDigits 10 who'.pid := by
  constructor
  · intro h
    obtain ⟨hpid, htid, hattempt⟩ := append_tag_inj h
    exact ⟨htid, hattempt, hpid⟩
  · rintro ⟨htid, rfl, hpid⟩
    rw [tag, tag, ← List.append_assoc, ← List.append_assoc, hpid, htid]

/-- **Temp names identify their makers.** Two names are one exactly if the threads and the attempts
are, and the stems followed by the processes. Only there can parts run into each other: with one
stem, or with stems that end in no digit, one name has one stem, maker and attempt. -/
theorem temp_name_identifies_maker (stem stem' : String) (who who' : Identity)
    (attempt attempt' : Nat) :
    (tempName stem who attempt = tempName stem' who' attempt' ↔
      who.tid = who'.tid ∧ attempt = attempt' ∧
        stem ++ toString who.pid = stem' ++ toString who'.pid) ∧
    (stem = stem' ∨ endsInDigit stem.toList = false ∧ endsInDigit stem'.toList = false →
      tempName stem who attempt = tempName stem' who' attempt' →
      stem = stem' ∧ who = who' ∧ attempt = attempt') := by
  have hiff : tempName stem who attempt = tempName stem' who' attempt' ↔
      who.tid = who'.tid ∧ attempt = attempt' ∧
        stem ++ toString who.pid = stem' ++ toString who'.pid := by
    rw [← String.toList_inj, toList_tempName, toList_tempName, append_tag_eq_iff,
      ← String.toList_inj, String.toList_append, String.toList_append]
    simp
  refine ⟨hiff, fun hstems heq => ?_⟩
  obtain ⟨htid, hattempt, hpid⟩ := hiff.mp heq
  rw [← String.toList_inj, String.toList_append, String.toList_append] at hpid
  have hstems' := hstems.imp_left (congrArg String.toList)
  obtain ⟨hstem, hpid⟩ := append_toDigits_inj_of_alike hstems' (by simpa using hpid)
  exact ⟨String.toList_inj.mp hstem, eq_of_parts hpid htid, hattempt⟩

/-- The end of a stem may pass for the start of a process number. -/
example : tempName ".font1" ⟨2, 7⟩ 0 = tempName ".font" ⟨12, 7⟩ 0 := by decide

theorem slash_not_mem_tag (who : Identity) (attempt : Nat) : '/' ∉ who.tag attempt := by
  have hdigits (n : Nat) : '/' ∉ Nat.toDigits 10 n := fun h =>
    absurd (Nat.isDigit_of_mem_toDigits (by decide) (by decide) h) (by decide)
  simp [tag, hdigits]

/-- The steps that stay or go back have no hyphen. -/
theorem ne_of_hyphen {name : String} (h : '-' ∈ name.toList) :
    name ≠ "" ∧ name ≠ "." ∧ name ≠ ".." := by
  refine ⟨?_, ?_, ?_⟩
  all_goals
    rintro rfl
    exact absurd h (by decide)

/-- Without a slash in the stem, a temp name is one step. -/
theorem plain_tempName {stem : String} (hstem : '/' ∉ stem.toList) (who : Identity)
    (attempt : Nat) : Plain (tempName stem who attempt) := by
  have hhyphen : '-' ∈ (tempName stem who attempt).toList := by
    simp [toList_tempName, tag]
  obtain ⟨hempty, hstay, hback⟩ := ne_of_hyphen hhyphen
  refine ⟨?_, hempty, hstay, hback⟩
  rw [toList_tempName, List.mem_append]
  exact not_or_intro hstem (slash_not_mem_tag who attempt)

end Identity

namespace Stager

theorem place_candidate {s : Stager} (hstem : '/' ∉ s.settings.stem.toList) (dir : Path)
    (attempt : Nat) :
    (s.candidate dir attempt).place = tempName s.settings.stem s.identity attempt :: dir.place :=
  Path.place_join dir (Identity.plain_tempName hstem s.identity attempt)

/-- Two stagers whose names can be told apart. -/
def Apart (s s' : Stager) : Prop :=
  s.identity ≠ s'.identity ∧
  (s.settings.stem = s'.settings.stem ∨
    endsInDigit s.settings.stem.toList = false ∧ endsInDigit s'.settings.stem.toList = false)

/-- The name that the place of a candidate has. -/
def lastName (s : Stager) (attempt : Nat) : List Char :=
  Path.lastPiece s.settings.stem.toList ++ s.identity.tag attempt

theorem head?_place_candidate (s : Stager) (dir : Path) (attempt : Nat) :
    (s.candidate dir attempt).place.head? = some (String.ofList (s.lastName attempt)) := by
  have hhyphen : '-' ∈ (String.ofList (s.lastName attempt)).toList := by
    simp [lastName, Identity.tag]
  obtain ⟨hempty, hstay, hback⟩ := Identity.ne_of_hyphen hhyphen
  refine Path.head?_place ?_ hempty hstay hback
  rw [candidate, Path.lastPiece_join, Identity.toList_tempName,
    Path.lastPiece_append _ (Identity.slash_not_mem_tag _ _), String.toList_ofList]
  rfl

theorem Apart.place_ne {s s' : Stager} (h : s.Apart s') (dir dir' : Path) (attempt attempt' : Nat) :
    (s.candidate dir attempt).place ≠ (s'.candidate dir' attempt').place := by
  intro heq
  have hheads := congrArg List.head? heq
  rw [head?_place_candidate, head?_place_candidate, Option.some.injEq, String.ofList_inj] at hheads
  obtain ⟨hpids, htid, -⟩ := Identity.append_tag_inj hheads
  have hsuffix (cs : List Char) : Path.lastPiece cs <:+ cs := List.rtakeWhile_suffix _ _
  have hstems : Path.lastPiece s.settings.stem.toList = Path.lastPiece s'.settings.stem.toList ∨
      endsInDigit (Path.lastPiece s.settings.stem.toList) = false ∧
        endsInDigit (Path.lastPiece s'.settings.stem.toList) = false :=
    h.2.imp (fun hstem => by rw [hstem]) fun hends =>
      ⟨endsInDigit_of_suffix (hsuffix _) hends.1, endsInDigit_of_suffix (hsuffix _) hends.2⟩
  exact h.1 (Identity.eq_of_parts (append_toDigits_inj_of_alike hstems hpids).2 htid)

end Stager

end Typecase
