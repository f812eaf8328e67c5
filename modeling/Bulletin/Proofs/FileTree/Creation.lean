import Bulletin.Proofs.FileTree.Parent
import Bulletin.Proofs.Sandbox

namespace Bulletin

namespace Path

variable {path above : String}

theorem named_of_mem_ancestors (h : above ∈ ancestors path) : named above <+: named path := by
  rw [ancestors] at h
  generalize path.length = n at h
  induction n generalizing path with
  | zero => exact List.mem_singleton.mp h ▸ List.prefix_rfl
  | succ n ih =>
    rw [ancestorsUpTo] at h
    rcases List.mem_cons.mp h with rfl | h
    · exact List.prefix_rfl
    · cases hp : parent? path with
      | none =>
        rw [hp] at h
        cases h
      | some parent =>
        rw [hp] at h
        exact (ih h).trans (named_of_parent? hp)

/-- A location that a path passes. One that it leaves again by going up does not lie above where the
path leads. -/
def Passes (path : String) (here : Location) : Prop :=
  ∃ front, front <+: named path ∧ here = front.foldl follow []

theorem passes_of_mem_ancestors (h : above ∈ ancestors path) : Passes path (location above) :=
  ⟨named above, named_of_mem_ancestors h, (foldl_follow_named above).symm⟩

theorem Passes.isPrefix {here : Location} (hup : ".." ∉ segments path) (h : Passes path here) :
    here <+: location path := by
  obtain ⟨front, ⟨rest, hrest⟩, rfl⟩ := h
  have hrest' : ".." ∉ rest := by
    intro hm
    have hnamed : ".." ∈ named path := hrest ▸ List.mem_append_right front hm
    exact hup (List.mem_of_mem_filter hnamed)
  rw [← foldl_follow_named, ← hrest, List.foldl_append]
  exact foldl_follow_isPrefix hrest' _

theorem exists_ancestors (path : String) : ∃ above, ancestors path = path :: above := by
  rw [ancestors]
  cases path.length with
  | zero => exact ⟨[], rfl⟩
  | succ n => exact ⟨_, rfl⟩

end Path

namespace Directory

variable {d d' : Directory} {path : String}

theorem makeDir_of_isDir (h : isDir d path) : makeDir d path = .error .alreadyExists := by
  rw [isDir] at h
  rw [makeDir]
  cases hl : locate d path with
  | error error => simp [hl] at h
  | ok place =>
    cases place with
    | directory here => rfl
    | entry parent name slash =>
      simp only [hl, Bool.and_eq_true, Bool.not_eq_true'] at h
      obtain ⟨entries, he⟩ := isDirectoryAt_iff.mp h.2
      simp [bind, Except.bind, h.1, he]

theorem isDir_of_makeDir (h : makeDir d path = .ok d') : isDir d' path := by
  have hmono (other : Location) (ho : isDirectoryAt d other) : isDirectoryAt d' other :=
    isDirectoryAt_makeDir h ho
  obtain ⟨parent, name, slash, hl, hlong, hnone, rfl⟩ := exists_of_makeDir h
  have hn : ¬isDirectoryAt d (parent ++ [name]) := by simp [isDirectoryAt, hnone]
  have hnew : isDirectoryAt (put d (.directory []) (parent ++ [name])) (parent ++ [name]) := by
    rw [isDirectoryAt_eq, entryAt?_put rfl (locate_eq_entry hl).2 hn, if_pos rfl]
    rfl
  rw [isDir, locate_mono hmono hl]
  simp [hlong, hnew]

def Makes (d : Directory) (path : String) (d' : Directory) : Prop :=
  isDir d path ∧ d' = d ∨ makeDir d path = .ok d'

theorem Makes.isDir (h : Makes d path d') : Directory.isDir d' path := by
  rcases h with ⟨hdir, rfl⟩ | hmake
  · exact hdir
  · exact isDir_of_makeDir hmake

/-- A place is as before, or it has become a directory on the way to a location. -/
def AddsAt (location other : Location) (d d' : Directory) : Prop :=
  entryAt? d' other = entryAt? d other ∨
    other <+: location ∧ entryAt? d other = none ∧ entryAt? d' other = some .directory

theorem AddsAt.trans {location other : Location} {d'' : Directory}
    (h : AddsAt location other d d') (h' : AddsAt location other d' d'') :
    AddsAt location other d d'' := by
  rcases h' with he' | ⟨hon, hnone', hdir'⟩
  · rw [AddsAt, he']
    exact h
  · rcases h with he | ⟨-, -, hdir⟩
    · exact Or.inr ⟨hon, he ▸ hnone', hdir'⟩
    · rw [hnone'] at hdir
      cases hdir

def AddsTo (location : Location) (d d' : Directory) : Prop :=
  ∀ other, AddsAt location other d d'

theorem AddsTo.refl (location : Location) (d : Directory) : AddsTo location d d :=
  fun _ ↦ Or.inl rfl

/-- Directories have been added where a path passes, and nothing else has changed. -/
def AddsAlong (path : String) (d d' : Directory) : Prop :=
  ∀ other, entryAt? d' other = entryAt? d other ∨
    Path.Passes path other ∧ AddsAt other other d d'

theorem AddsAlong.refl (path : String) (d : Directory) : AddsAlong path d d :=
  fun _ ↦ Or.inl rfl

theorem AddsAlong.trans {d'' : Directory} (h : AddsAlong path d d') (h' : AddsAlong path d' d'') :
    AddsAlong path d d'' := by
  intro other
  rcases h other with he | ⟨hp, ha⟩
  · rw [AddsAt, ← he]
    exact h' other
  · rcases h' other with he' | ⟨-, ha'⟩
    · exact Or.inr ⟨hp, ha.trans (Or.inl he')⟩
    · exact Or.inr ⟨hp, ha.trans ha'⟩

theorem AddsAlong.addsTo (hup : ".." ∉ Path.segments path) (h : AddsAlong path d d') :
    AddsTo (Path.location path) d d' := by
  intro other
  rcases h other with he | ⟨hp, he | ⟨-, hadded⟩⟩
  · exact Or.inl he
  · exact Or.inl he
  · exact Or.inr ⟨hp.isPrefix hup, hadded⟩

end Directory

namespace Sandbox

open Directory Workspace

variable {path : String} {above : List String} {w w' : World}

theorem run_makeDirsFrom_of_makes {made : Directory} (hne : path ≠ "")
    (h : w.files.Makes path made) :
    StateT.run (makeDirsFrom (path :: above) : Sandbox _) w =
      pure (.ok (), { w with files := made }) := by
  rcases h with ⟨hdir, rfl⟩ | hmake
  · simp [makeDirsFrom, hne, run_makeDir_of_error (makeDir_of_isDir hdir), makeDirsFrom.settle,
      hdir]
  · simp [makeDirsFrom, hne, run_makeDir_of_ok hmake]

theorem run_makeDirs_of_makes {made : Directory} (hne : path ≠ "")
    (h : w.files.Makes path made) :
    StateT.run (makeDirs path : Sandbox _) w = pure (.ok (), { w with files := made }) := by
  obtain ⟨above, habove⟩ := Path.exists_ancestors path
  rw [makeDirs, habove]
  exact run_makeDirsFrom_of_makes hne h

theorem run_makeDirs_of_isDir (h : w.files.isDir path) (hne : path ≠ "") :
    StateT.run (makeDirs path : Sandbox _) w = pure (.ok (), w) :=
  run_makeDirs_of_makes hne (Or.inl ⟨h, rfl⟩)

theorem run_makeDirs_of_makeDir {files : Directory} (h : w.files.makeDir path = .ok files)
    (hne : path ≠ "") :
    StateT.run (makeDirs path : Sandbox _) w = pure (.ok (), { w with files }) :=
  run_makeDirs_of_makes hne (Or.inr h)

def IsMade (path : String) (outcome : Except FileError Unit) (d : Directory) : Prop :=
  outcome.isOk → d.isDir path

theorem makeDir_ensures (path : String) :
    Ensures (makeDir path : Sandbox _) (IsMade path) := by
  intro w
  cases hm : w.files.makeDir path with
  | ok files =>
    rw [run_makeDir_of_ok hm]
    exact fun _ ↦ isDir_of_makeDir hm
  | error error =>
    rw [run_makeDir_of_error hm]
    exact fun h ↦ absurd h Bool.false_ne_true

theorem settle_ensures {outcome : Except FileError Unit} (h : IsMade path outcome w.files) :
    IsMade path (StateT.run (makeDirsFrom.settle path outcome : Sandbox _) w).1
      (StateT.run (makeDirsFrom.settle path outcome : Sandbox _) w).2.files := by
  cases outcome with
  | ok _ => exact h
  | error error =>
    change IsMade path (if w.files.isDir path then .ok () else .error error) w.files
    split
    · exact fun _ ↦ ‹_›
    · exact fun h ↦ absurd h Bool.false_ne_true

theorem makeDirs_ensures (hne : path ≠ "") : Ensures (makeDirs path : Sandbox _) (IsMade path) := by
  obtain ⟨above, habove⟩ := Path.exists_ancestors path
  rw [makeDirs, habove, makeDirsFrom, if_neg (by simpa using hne)]
  refine (makeDir_ensures path).bind_of (fun outcome w hmade ↦ ?_)
  split
  · exact hmade
  · refine Ensures.bind (fun outcome ↦ ?_) w
    split
    · exact .pure (fun d h ↦ absurd h Bool.false_ne_true)
    · exact (makeDir_ensures path).bind_of (fun outcome w h ↦ settle_ensures h)
  · exact settle_ensures hmade

theorem makeDirs_addsAlong (path : String) :
    Relates (AddsAlong path) (makeDirs path : Sandbox _) := by
  refine Relates.makeDirsFrom (AddsAlong.refl path) (fun _ _ _ ↦ AddsAlong.trans) ?_
  intro above ha d d' h other
  rcases entryAt?_makeDir h other with he | ⟨rfl, hadded⟩
  · exact Or.inl he
  · exact Or.inr ⟨Path.passes_of_mem_ancestors ha, Or.inr ⟨List.prefix_rfl, hadded⟩⟩

theorem makeDirs_relates (hup : ".." ∉ Path.segments path) :
    Relates (AddsTo (Path.location path)) (makeDirs path : Sandbox _) :=
  fun w ↦ (makeDirs_addsAlong path w).addsTo hup

end Sandbox

end Bulletin
