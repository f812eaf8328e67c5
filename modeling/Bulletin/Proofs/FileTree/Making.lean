import Bulletin.Proofs.FileTree.Creation

namespace Bulletin

namespace Directory

variable {d d' : Directory} {path above name : String} {parent here there : Location}
  {parts more : List String}

theorem locate_of_location_nil (hs : Path.IsSound path) (hup : ".." ∉ Path.segments path)
    (hlocation : Path.location path = []) : locate d path = .ok (.directory []) := by
  have hidle := Path.location_eq_filter_named hup
  rw [hlocation, eq_comm] at hidle
  rw [locate_of_isSound hs]
  rcases List.eq_nil_or_concat' (Path.named path) with hnil | ⟨front, last, hnamed⟩
  · rw [hnil]
    rfl
  · rw [hnamed, List.filter_append, List.append_eq_nil_iff] at hidle
    have hne : last ≠ "" := by
      have hmem : last ∈ Path.named path := hnamed ▸ List.mem_concat_self
      simpa using (List.mem_filter.mp hmem).2
    have hdot : last = "." := by simpa [Path.isIdle, hne] using hidle.2
    have hwalk := walk_filter d [] front
    rw [hidle.1] at hwalk
    rw [hnamed, List.getLast?_concat, List.dropLast_concat, ← hwalk]
    exact if_pos hdot

theorem locate_of_location_concat (hs : Path.IsSound path) (hup : ".." ∉ Path.segments path)
    (hends : Path.EndsPlainly path) (hlocation : Path.location path = parent ++ [name]) :
    locate d path = (walk d [] parent).map
      (.entry · name ((Path.segments path).getLast? = some "")) := by
  obtain ⟨front, hnamed, hfront⟩ := Path.named_eq_concat hup hends hlocation
  have hname := Path.goesDown_location hup name (hlocation ▸ List.mem_concat_self)
  have hdot : name ≠ "." := by
    rintro rfl
    exact hname.1 rfl
  rw [locate_of_isSound hs, hnamed, List.getLast?_concat, List.dropLast_concat, ← walk_filter,
    hfront]
  simp only [hdot, hname.2, if_false]
  cases walk d [] parent <;> rfl

theorem eq_append_of_walk (hdown : ∀ name ∈ parts, ¬Path.isIdle name ∧ name ≠ "..")
    (hw : walk d here parts = .ok there) : there = here ++ parts := by
  rw [walk_eq_ok hw, Path.foldl_follow_eq (fun hm ↦ (hdown _ hm).2 rfl), List.filter_eq_self.mpr]
  intro name hname
  simpa using (hdown name hname).1

/-- A path is a directory if its names, one by one, lead through directories. -/
theorem isDir_iff (hup : ".." ∉ Path.segments path) (hends : Path.EndsPlainly path) :
    isDir d path ↔ Path.IsSound path ∧
      walk d [] (Path.location path) = .ok (Path.location path) := by
  by_cases hs : Path.IsSound path
  · rw [and_iff_right hs, isDir]
    have hdown := Path.goesDown_location hup
    rcases List.eq_nil_or_concat' (Path.location path) with hnil | ⟨parent, name, hconcat⟩
    · rw [locate_of_location_nil hs hup hnil, hnil]
      exact iff_of_true rfl rfl
    · rw [locate_of_location_concat hs hup hends hconcat, hconcat, walk_append]
      rw [hconcat, List.forall_mem_append] at hdown
      cases hw : walk d [] parent with
      | error error => exact iff_of_false Bool.false_ne_true (fun h ↦ by cases h)
      | ok here =>
        obtain rfl : here = parent := eq_append_of_walk hdown.1 hw
        obtain ⟨hi, hname⟩ := hdown.2 name (List.mem_singleton_self name)
        refine Iff.trans ?_ (walk_singleton hi hname).symm
        simp [Except.map]
  · exact iff_of_false (fun h ↦ hs (isSound_of_isDir h)) (fun h ↦ hs h.1)

theorem walk_dropLast (hup : ".." ∉ Path.segments path)
    (hw : walk d [] (Path.location path) = .ok (Path.location path)) :
    walk d [] (Path.location path).dropLast = .ok (Path.location path).dropLast := by
  have hdown := Path.goesDown_location hup
  rcases List.eq_nil_or_concat' (Path.location path) with hnil | ⟨parent, name, hconcat⟩
  · rw [hnil]
    rfl
  · rw [hconcat, walk_append] at hw
    obtain ⟨here, hhere, -⟩ := Json.exists_of_bind_eq_ok hw
    rw [hconcat, List.forall_mem_append] at hdown
    rw [hconcat, List.dropLast_concat, hhere, eq_append_of_walk hdown.1 hhere, List.nil_append]

def AddsDirectories (d d' : Directory) : Prop :=
  ∀ other, AddsAt other other d d'

/-- A path is a directory, or would be one with some more directories on its way. -/
def CanBeDirectory (d : Directory) (path : String) : Prop :=
  ∃ d', AddsTo (Path.location path) d d' ∧ isDir d' path

theorem AddsTo.addsDirectories {location : Location} (h : AddsTo location d d') :
    AddsDirectories d d' :=
  fun other ↦ (h other).imp_right (fun hadded ↦ ⟨List.prefix_rfl, hadded.2⟩)

theorem AddsDirectories.directory_or_none (h : AddsDirectories d d') {location : Location}
    (hdir : isDirectoryAt d' location) : isDirectoryAt d location ∨ find? d location = none := by
  rcases h location with he | ⟨-, hnone, -⟩
  · left
    rw [isDirectoryAt_eq] at hdir ⊢
    rwa [he] at hdir
  · exact Or.inr (Option.map_eq_none_iff.mp hnone)

/-- Names that lead somewhere once directories have been added lead there before, or end where a
directory is missing. -/
theorem walk_of_addsDirectories (hadds : AddsDirectories d d')
    (hw : walk d' here parts = .ok there) :
    walk d here parts = .ok there ∨ walk d here parts = .error .notFound := by
  induction parts generalizing here with
  | nil => exact Or.inl hw
  | cons part parts ih =>
    rw [walk] at hw ⊢
    split at hw
    · rename_i hi
      rw [if_pos hi]
      exact ih hw
    · rename_i hi
      rw [if_neg hi]
      split at hw
      · rename_i hup
        rw [if_pos hup]
        exact ih hw
      · rename_i hup
        rw [if_neg hup]
        split at hw
        · cases hw
        · rename_i hlong
          rw [if_neg hlong]
          split at hw
          · cases hw
          · cases hw
          · rename_i entries he
            have hdir : isDirectoryAt d' (here ++ [part]) := isDirectoryAt_iff.mpr ⟨entries, he⟩
            rcases hadds.directory_or_none hdir with hdir | hnone
            · obtain ⟨old, ho⟩ := isDirectoryAt_iff.mp hdir
              simp only [ho]
              exact ih hw
            · simp only [hnone]
              exact Or.inr trivial

theorem exists_makes (hup : ".." ∉ Path.segments path) (hends : Path.EndsPlainly path)
    (hadds : AddsDirectories d d') (hdir : Directory.isDir d' path)
    (hparent : walk d [] (Path.location path).dropLast = .ok (Path.location path).dropLast) :
    ∃ made, Makes d path made := by
  obtain ⟨hs, hw⟩ := (isDir_iff hup hends).mp hdir
  rcases List.eq_nil_or_concat' (Path.location path) with hnil | ⟨parent, name, hconcat⟩
  · have hthere : Directory.isDir d path := by
      rw [isDir_iff hup hends, hnil]
      exact ⟨hs, rfl⟩
    exact ⟨d, Or.inl ⟨hthere, rfl⟩⟩
  · obtain ⟨-, hname⟩ := List.forall_mem_append.mp (hconcat ▸ Path.goesDown_location hup)
    obtain ⟨hi, hne⟩ := hname name (List.mem_singleton_self name)
    rw [hconcat, List.dropLast_concat] at hparent
    rw [hconcat, walk_append] at hw
    obtain ⟨here, hhere, hw⟩ := Json.exists_of_bind_eq_ok hw
    obtain ⟨hlong, hdir', hsame⟩ := (walk_singleton hi hne).mp hw
    obtain rfl := List.append_cancel_right hsame
    rcases hadds.directory_or_none hdir' with hdir | hnone
    · have hthere : Directory.isDir d path := by
        rw [isDir_iff hup hends, hconcat, walk_append, hparent]
        exact ⟨hs, (walk_singleton hi hne).mpr ⟨hlong, hdir, rfl⟩⟩
      exact ⟨d, Or.inl ⟨hthere, rfl⟩⟩
    · refine ⟨put d (.directory []) (parent ++ [name]), Or.inr ?_⟩
      rw [makeDir, locate_of_location_concat hs hup hends hconcat, hparent]
      simp [Except.map, bind, Except.bind, hlong, hnone]

theorem makeDir_of_walk_error {error : FileError} (hs : Path.IsSound path)
    (hup : ".." ∉ Path.segments path) (hends : Path.EndsPlainly path)
    (hw : walk d [] (Path.location path).dropLast = .error error) :
    makeDir d path = .error error := by
  rcases List.eq_nil_or_concat' (Path.location path) with hnil | ⟨parent, name, hconcat⟩
  · rw [hnil] at hw
    cases hw
  · rw [hconcat, List.dropLast_concat] at hw
    rw [makeDir, locate_of_location_concat hs hup hends hconcat, hw]
    rfl

theorem Makes.addsDirectories {made : Directory} (h : Makes d path made)
    (hadds : AddsDirectories d d') (hdir : isDirectoryAt d' (Path.location path)) :
    AddsDirectories made d' := by
  rcases h with ⟨-, rfl⟩ | hmake
  · exact hadds
  intro other
  rcases entryAt?_makeDir hmake other with he | ⟨rfl, hnone, hmade⟩
  · rw [AddsAt, he]
    exact hadds other
  · exact Or.inl ((entryAt?_of_isDirectoryAt hdir).trans hmade.symm)

end Directory

namespace Sandbox

open Directory Workspace

variable {path : String} {above : List String} {d' : Directory} {w w₁ : World} {n : Nat}

theorem run_makeDirsFrom_of_notFound {made : Directory} (hne : path ≠ "")
    (hmissing : w.files.makeDir path = .error .notFound)
    (habove : StateT.run (makeDirsFrom above : Sandbox _) w = pure (.ok (), w₁))
    (h : w₁.files.Makes path made) :
    StateT.run (makeDirsFrom (path :: above) : Sandbox _) w =
      pure (.ok (), { w₁ with files := made }) := by
  rcases h with ⟨hdir, rfl⟩ | hmake
  · simp [makeDirsFrom, hne, run_makeDir_of_error hmissing, habove,
      run_makeDir_of_error (makeDir_of_isDir hdir), makeDirsFrom.settle, hdir]
  · simp [makeDirsFrom, hne, run_makeDir_of_error hmissing, habove, run_makeDir_of_ok hmake,
      makeDirsFrom.settle]

/-- What could be a directory becomes one, its parents first as far as they are missing. -/
theorem exists_run_makeDirsFrom (hlength : path.length ≤ n) (hup : ".." ∉ Path.segments path)
    (hends : Path.EndsPlainly path) (hdir : path ≠ "" → d'.isDir path)
    (hadds : AddsDirectories w.files d') :
    ∃ w', StateT.run (makeDirsFrom (Path.ancestorsUpTo n path) : Sandbox _) w =
        pure (.ok (), w') ∧ AddsDirectories w'.files d' ∧
      walk w'.files [] (Path.location path) = .ok (Path.location path) := by
  induction n generalizing path w with
  | zero =>
    obtain rfl := String.length_eq_zero_iff.mp (Nat.le_zero.mp hlength)
    exact ⟨w, rfl, hadds, rfl⟩
  | succ n ih =>
    rcases eq_or_ne path "" with rfl | hne
    · exact ⟨w, rfl, hadds, rfl⟩
    obtain ⟨hs, hw⟩ := (isDir_iff hup hends).mp (hdir hne)
    have hmakes {files made : Directory} (hmade : files.Makes path made)
        (hfiles : AddsDirectories files d') : AddsDirectories made d' ∧
          walk made [] (Path.location path) = .ok (Path.location path) :=
      ⟨hmade.addsDirectories hfiles (isDirectoryAt_walk rfl hw),
        ((isDir_iff hup hends).mp hmade.isDir).2⟩
    have hparent := walk_dropLast hup hw
    rcases walk_of_addsDirectories hadds hparent with hready | hmissing
    · obtain ⟨made, hmade⟩ := exists_makes hup hends hadds (hdir hne) hready
      exact ⟨_, run_makeDirsFrom_of_makes hne hmade, hmakes hmade hadds⟩
    · -- The parent is missing, so it is made first, by the induction hypothesis.
      have hlocation : Path.location path ≠ [] := by
        intro hnil
        rw [hnil] at hmissing
        cases hmissing
      obtain ⟨above, habove⟩ := Path.exists_parent? hup hlocation
      have hup' := Path.up_not_mem_parent? hup habove
      have hends' := Path.endsPlainly_parent? hup habove
      have hshorter := Path.length_parent?_lt hup hlocation habove
      have hlocation' := Path.location_parent? hup habove
      have hdir' (hne' : above ≠ "") : d'.isDir above := by
        rw [isDir_iff hup' hends', hlocation']
        exact ⟨hs.parent? habove hne', hparent⟩
      obtain ⟨w₁, hrun, hadds₁, hready⟩ := ih (by omega) hup' hends' hdir' hadds
      rw [hlocation'] at hready
      obtain ⟨made, hmade⟩ := exists_makes hup hends hadds₁ (hdir hne) hready
      refine ⟨{ w₁ with files := made }, ?_, hmakes hmade hadds₁⟩
      rw [Path.ancestorsUpTo, habove]
      exact run_makeDirsFrom_of_notFound hne (makeDir_of_walk_error hs hup hends hmissing) hrun
        hmade

theorem exists_run_makeDirs_iff (hup : ".." ∉ Path.segments path) (hends : Path.EndsPlainly path)
    (hne : path ≠ "") :
    (∃ w₁, StateT.run (makeDirs path : Sandbox _) w = pure (.ok (), w₁)) ↔
      w.files.CanBeDirectory path := by
  constructor
  · rintro ⟨w₁, hrun⟩
    exact ⟨w₁.files, (makeDirs_relates hup).of_run hrun, (makeDirs_ensures hne).of_run hrun rfl⟩
  · rintro ⟨d', hadds, hdir⟩
    obtain ⟨w₁, hrun, -⟩ := exists_run_makeDirsFrom (Nat.le_refl _) hup hends (fun _ ↦ hdir)
      hadds.addsDirectories
    exact ⟨w₁, hrun⟩

end Sandbox

end Bulletin
