import Typecase.Proofs.Files.LastPiece

/-!
# Names joined to directories

A name without a slash stays below the directory that it is joined to. If the directory is there,
the path reaches the name.
-/

namespace Typecase

/-- A name that is one step of a path, and leads one further. -/
structure Plain (name : String) : Prop where
  no_slash : '/' ∉ name.toList
  not_empty : name ≠ ""
  not_stay : name ≠ "."
  not_back : name ≠ ".."

theorem Plain.follow {name : String} (h : Plain name) (place : Place) :
    place.follow name = name :: place := by
  rw [Place.follow, if_neg (by simp [h.not_empty, h.not_stay]), if_neg h.not_back]

namespace Path

variable {name : String}

theorem not_isAbsolute (h : '/' ∉ name.toList) : isAbsolute name = false := by
  rw [isAbsolute, beq_eq_false_iff_ne]
  exact fun hhead => h (List.mem_of_head? hhead)

/-- The name takes the place of the empty step that the directory's path may end in. -/
theorem steps_join (dir : Path) (h : '/' ∉ name.toList) :
    ∃ front back, (dir.join name).steps = front ++ [name] ∧ dir.steps = front ++ back ∧
      ∀ step ∈ back, step = "" := by
  have hname : pieces name.toList = [name.toList] := pieces_of_no_slash h
  rcases toList_join dir (not_isAbsolute h) with ⟨hdir, hjoin⟩ | ⟨front, hdir, hjoin⟩
  · refine ⟨[], [""], ?_, ?_, by simp⟩
    · simp [steps, hjoin, hname]
    · simp [steps, hdir, pieces]
  · have hsteps : (dir.join name).steps = (pieces front).map String.ofList ++ [name] := by
      simp [steps, hjoin, pieces_append_slash, hname]
    rcases hdir with hdir | hdir
    · exact ⟨_, [], hsteps, by simp [steps, hdir], by simp⟩
    · exact ⟨_, [""], hsteps, by simp [steps, hdir, pieces_append_slash, pieces], by simp⟩

theorem place_join (dir : Path) (h : Plain name) : (dir.join name).place = name :: dir.place := by
  obtain ⟨front, back, hjoin, hdir, hback⟩ := steps_join dir h.no_slash
  rw [place, place, hjoin, hdir, List.foldl_append, List.foldl_append,
    Place.foldl_follow_of_empty _ hback]
  exact h.follow _

end Path

namespace Store

variable {s : Store} {dir : Path} {name : String}

/-- The walk has come to a directory that is there. -/
def Stands (s : Store) : Spot → Place → Prop
  | .directory here, place => place = here
  | .child above name _, place =>
    place = name :: above ∧ name.utf8ByteSize ≤ maxNameBytes ∧ s.look place = some .directory

/-- The path leads to a directory. The empty path cannot be opened, but names are found below it. -/
def IsDirectory (s : Store) (dir : Path) : Prop :=
  dir.text = "" ∨ s.openExisting dir = .ok .directory

theorem stands_of_isDirectory (h : s.IsDirectory dir) :
    ∃ spot place, s.walk [] dir.steps = .ok spot ∧ s.Stands spot place := by
  rcases h with hempty | hopen
  · exact ⟨.directory [], [], by simp [Path.steps, hempty, Path.pieces, walk], rfl⟩
  · unfold openExisting find at hopen
    cases hrefusal : refusal dir with
    | some why => simp [hrefusal, bind, Except.bind] at hopen
    | none =>
      cases hwalk : s.walk [] dir.steps with
      | error why => simp [hrefusal, hwalk, bind, Except.bind] at hopen
      | ok spot =>
        cases spot with
        | directory place => exact ⟨_, place, rfl, rfl⟩
        | child above last slashed =>
          simp only [hrefusal, hwalk, bind, Except.bind, lookChild] at hopen
          by_cases hsize : last.utf8ByteSize > maxNameBytes
          · simp [hsize] at hopen
          · cases hlook : s.look (last :: above) with
            | none => simp [hsize, hlook] at hopen
            | some node =>
              cases node with
              | directory => exact ⟨_, _, rfl, rfl, Nat.not_lt.mp hsize, hlook⟩
              | file b => cases slashed <;> simp [hsize, hlook] at hopen

theorem walk_append_of_empty {steps : List String} (h : ∀ step ∈ steps, step = "")
    (place : Place) (rest : List String) : s.walk place (steps ++ rest) = s.walk place rest := by
  induction steps with
  | nil => rfl
  | cons step steps ih =>
    rw [List.cons_append, walk, if_pos (.inl (h step List.mem_cons_self))]
    exact ih fun step' hmem => h step' (List.mem_cons_of_mem _ hmem)

theorem walk_name (hname : Plain name) (place : Place) :
    s.walk place [name] = .ok (.child place name false) := by
  simp [walk, hname.not_empty, hname.not_stay, hname.not_back]

/-- A walk that stands at a directory can go on to any name. -/
theorem walk_to_child {front back : List String} (hback : ∀ step ∈ back, step = "")
    (hname : Plain name) {start place : Place} {spot : Spot}
    (hwalk : s.walk start (front ++ back) = .ok spot) (hstands : s.Stands spot place) :
    s.walk start (front ++ [name]) = .ok (.child place name false) := by
  induction front generalizing start with
  | nil =>
    have hstart : s.walk start back = .ok (.directory start) := by
      simpa [walk] using walk_append_of_empty hback start []
    cases hstart.symm.trans hwalk
    obtain rfl : place = start := hstands
    exact walk_name hname place
  | cons step front ih =>
    have hgoes : ¬(front ++ [name]).all (· == "") = true := by simp [hname.not_empty]
    rw [List.cons_append, walk] at hwalk ⊢
    rw [if_neg hgoes]
    split_ifs at hwalk ⊢ with hstay hup hsize
    · exact ih hwalk
    · exact ih hwalk
    · cases hwalk
      exact absurd hsize (Nat.not_lt.mpr hstands.2.1)
    -- What was the last name is a directory now, and all that follows it stays there.
    · rename_i hlast
      cases hwalk
      obtain ⟨rfl, -, hlook⟩ := hstands
      rw [List.all_append, Bool.and_eq_true, List.all_eq_true] at hlast
      have hfront : ∀ step ∈ front, step = "" := fun step hmem => by simpa using hlast.1 step hmem
      rw [hlook]
      exact (walk_append_of_empty hfront _ _).trans (walk_name hname _)
    · cases hlook : s.look (step :: start) with
      | none => simp [hlook] at hwalk
      | some node =>
        cases node with
        | file b => simp [hlook] at hwalk
        | directory =>
          rw [hlook] at hwalk
          exact ih hwalk

/-- A plain name is reached below a directory that is there, if it is not too long. -/
theorem reaches_join (hdir : s.IsDirectory dir) (hname : Plain name)
    (hpath : refusal (dir.join name) = none) (hsize : name.utf8ByteSize ≤ maxNameBytes) :
    s.Reaches (dir.join name) := by
  obtain ⟨spot, place, hwalk, hstands⟩ := stands_of_isDirectory hdir
  obtain ⟨front, back, hjoin, hsteps, hback⟩ := Path.steps_join dir hname.no_slash
  rw [hsteps] at hwalk
  have hchild := walk_to_child hback hname hwalk hstands
  have hnames : s.Names (dir.join name) (name :: place) := by
    refine ⟨place, name, rfl, ?_, hsize⟩
    simp only [find, hpath, hjoin, hchild]
  exact (names_iff.mp hnames).1

end Store

end Typecase
