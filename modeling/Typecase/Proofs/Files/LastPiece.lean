import Typecase.Proofs.Files.Destination
import Typecase.Proofs.Text.Trailing

/-!
# The last piece of a path

It is what stands after the last slash. A name that is joined to a directory brings its last piece
with it, and the place that the path leads to has that name.
-/

namespace Typecase

namespace Path

/-! ## Pieces -/

theorem pieces_ne_nil (cs : List Char) : pieces cs ≠ [] := by
  cases cs with
  | nil => simp [pieces]
  | cons c cs =>
    unfold pieces
    split
    · simp
    · split <;> simp

theorem pieces_of_no_slash {cs : List Char} (h : '/' ∉ cs) : pieces cs = [cs] := by
  induction cs with
  | nil => rfl
  | cons c cs ih =>
    have hc : c ≠ '/' := (List.ne_of_not_mem_cons h).symm
    rw [pieces, if_neg hc, ih (List.not_mem_of_not_mem_cons h)]

theorem pieces_append_slash (front back : List Char) :
    pieces (front ++ '/' :: back) = pieces front ++ pieces back := by
  induction front with
  | nil => simp [pieces]
  | cons c front ih =>
    rw [List.cons_append, pieces, pieces]
    split
    · rw [ih, List.cons_append]
    · obtain ⟨p, ps, hpieces⟩ := List.exists_cons_of_ne_nil (pieces_ne_nil front)
      rw [ih, hpieces, List.cons_append, List.cons_append]

/-- The characters after the last slash. -/
def lastPiece (cs : List Char) : List Char := cs.rtakeWhile (· != '/')

theorem getLast?_pieces (cs : List Char) : (pieces cs).getLast? = some (lastPiece cs) := by
  have hnone : '/' ∉ lastPiece cs := fun h => by simpa using List.mem_rtakeWhile_imp h
  have hcut : cs.rdropWhile (· != '/') ++ lastPiece cs = cs := List.rdropWhile_append_rtakeWhile
  rcases List.eq_nil_or_concat (cs.rdropWhile (· != '/')) with hnil | ⟨front, c, hfront⟩
  · have hwhole : lastPiece cs = cs := by rwa [hnil, List.nil_append] at hcut
    rw [hwhole] at hnone ⊢
    rw [pieces_of_no_slash hnone, List.getLast?_singleton]
  · have hc : c = '/' := by
      have hlast := List.rdropWhile_last_not (· != '/') cs (by simp [hfront])
      simpa [hfront] using hlast
    have hsplit : pieces cs = pieces front ++ [lastPiece cs] := by
      conv => lhs; rw [← hcut, hfront, hc, List.concat_append, pieces_append_slash,
        pieces_of_no_slash hnone]
    rw [hsplit, List.getLast?_concat]

theorem lastPiece_append {back : List Char} (front : List Char) (h : '/' ∉ back) :
    lastPiece (front ++ back) = lastPiece front ++ back := by
  apply Text.rtakeWhile_append_of_all
  intro c hc
  simpa using ne_of_mem_of_not_mem hc h

theorem lastPiece_append_slash (front back : List Char) :
    lastPiece (front ++ '/' :: back) = lastPiece back := by
  have hlast := getLast?_pieces (front ++ '/' :: back)
  rw [pieces_append_slash, List.getLast?_append_of_ne_nil _ (pieces_ne_nil back),
    getLast?_pieces back] at hlast
  exact (Option.some.inj hlast).symm

/-- A joined name comes after a slash, unless there is nothing that it could come after. -/
theorem toList_join (dir : Path) {name : String} (h : isAbsolute name = false) :
    dir.text.toList = [] ∧ (dir.join name).text.toList = name.toList ∨
    ∃ front, (dir.text.toList = front ∨ dir.text.toList = front ++ ['/']) ∧
      (dir.join name).text.toList = front ++ '/' :: name.toList := by
  rw [join, if_neg (by simp [h])]
  split
  · rename_i hends
    rcases List.eq_nil_or_concat dir.text.toList with hnil | ⟨front, c, hdir⟩
    · exact .inl ⟨hnil, by rw [String.toList_append, hnil, List.nil_append]⟩
    · have hc : c = '/' := by
        have hne : dir.text ≠ "" := by
          intro htext
          simp [htext] at hdir
        simpa [hne, hdir] using hends
      rw [List.concat_eq_append, hc] at hdir
      exact .inr ⟨front, .inr hdir, by simp [hdir]⟩
  · exact .inr ⟨dir.text.toList, .inl rfl, by simp⟩

theorem lastPiece_join (dir : Path) (name : String) :
    lastPiece (dir.join name).text.toList = lastPiece name.toList := by
  cases habs : isAbsolute name with
  | true => rw [join, if_pos habs]
  | false =>
    rcases toList_join dir habs with ⟨-, hjoin⟩ | ⟨front, -, hjoin⟩
    · rw [hjoin]
    · rw [hjoin, lastPiece_append_slash]

/-! ## Names of places -/

theorem head?_place {p : Path} {name : String}
    (hlast : lastPiece p.text.toList = name.toList) (hname : name ≠ "") (hstay : name ≠ ".")
    (hback : name ≠ "..") : p.place.head? = some name := by
  obtain ⟨front, hsteps⟩ : ∃ front, p.steps = front ++ [name] := by
    obtain ⟨front, hpieces⟩ := List.getLast?_eq_some_iff.mp (getLast?_pieces p.text.toList)
    refine ⟨front.map String.ofList, ?_⟩
    rw [steps, hpieces, hlast, List.map_append, List.map_singleton, String.ofList_toList]
  rw [place, hsteps, List.foldl_append, List.foldl_cons, List.foldl_nil, Place.follow,
    if_neg (by simp [hname, hstay]), if_neg hback, List.head?_cons]

end Path

end Typecase
