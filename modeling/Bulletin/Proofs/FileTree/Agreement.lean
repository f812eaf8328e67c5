import Bulletin.Proofs.FileTree.Creation

namespace Bulletin

namespace Path

variable {path above : String}

theorem location_of_named (hup : ".." ∉ segments path) (h : named above <+: named path) :
    location above <+: location path :=
  Passes.isPrefix hup ⟨named above, h, (foldl_follow_named above).symm⟩

end Path

namespace Directory

variable {apart : List Location} {d d' e e' : Directory} {here location : Location}
  {path above : String} {segments : List String} {bytes : List UInt8}

def AgreesAlong (path : String) (d d' : Directory) : Prop :=
  ∀ location, location <+: Path.location path → entryAt? d' location = entryAt? d location

theorem AgreesAlong.entryAt?_located {parent : Location} {name : String} {slash : Bool}
    (h : AgreesAlong path d d') (hl : locate d path = .ok (.entry parent name slash)) :
    entryAt? d' (parent ++ [name]) = entryAt? d (parent ++ [name]) :=
  h _ ((locate_eq_entry hl).1 ▸ List.prefix_rfl)

theorem find?_cases (h : entryAt? d' location = entryAt? d location) :
    (find? d location = none ∧ find? d' location = none) ∨
    (∃ bytes, find? d location = some (.file bytes) ∧ find? d' location = some (.file bytes)) ∨
    ∃ entries entries', find? d location = some (.directory entries) ∧
      find? d' location = some (.directory entries') := by
  rw [entryAt?, entryAt?] at h
  cases hd : find? d location with
  | none =>
    rw [hd, Option.map_none, Option.map_eq_none_iff] at h
    exact Or.inl ⟨rfl, h⟩
  | some node =>
    rw [hd, Option.map_some] at h
    obtain ⟨node', hd', hnode⟩ := Option.map_eq_some_iff.mp h
    cases node with
    | file bytes =>
      cases node' with
      | file bytes' =>
        cases hnode
        exact Or.inr (Or.inl ⟨bytes, rfl, hd'⟩)
      | directory entries' => cases hnode
    | directory entries =>
      cases node' with
      | file bytes' => cases hnode
      | directory entries' => exact Or.inr (Or.inr ⟨entries, entries', rfl, hd'⟩)

theorem isDirectoryAt_congr (h : entryAt? d' location = entryAt? d location) :
    isDirectoryAt d' location = isDirectoryAt d location := by
  rw [isDirectoryAt_eq, isDirectoryAt_eq, h]

theorem walk_congr (hup : ".." ∉ segments)
    (h : ∀ location, location <+: segments.foldl Path.follow here →
      entryAt? d' location = entryAt? d location) :
    walk d' here segments = walk d here segments := by
  induction segments generalizing here with
  | nil => rfl
  | cons segment segments ih =>
    obtain ⟨hne, hup'⟩ := not_or.mp (List.mem_cons.not.mp hup)
    rw [List.foldl_cons] at h
    rw [walk, walk, if_neg (Ne.symm hne), if_neg (Ne.symm hne)]
    by_cases hi : Path.isIdle segment
    · rw [Path.follow_of_isIdle hi] at h
      rw [if_pos hi, if_pos hi, ih hup' h]
    · rw [Path.follow_of_name hi (Ne.symm hne)] at h
      rw [if_neg hi, if_neg hi, ih hup' h]
      -- What is looked up lies above where the parts lead.
      have hnext := h (here ++ [segment]) (Path.foldl_follow_isPrefix hup' _)
      rcases find?_cases hnext with ⟨hd, hd'⟩ | ⟨bytes, hd, hd'⟩ | ⟨entries, entries', hd, hd'⟩ <;>
        rw [hd, hd']

section

variable (h : AgreesAlong path d d') (hup : ".." ∉ Path.segments path)
include h hup

theorem AgreesAlong.locate_eq : locate d' path = locate d path := by
  have hlast : ".." ∉ (Path.named path).dropLast := by
    intro hm
    exact hup (List.mem_of_mem_filter (List.mem_of_mem_dropLast hm))
  have hway : (Path.named path).dropLast.foldl Path.follow [] <+: Path.location path :=
    Path.Passes.isPrefix hup ⟨_, List.dropLast_prefix _, rfl⟩
  have hwalk : walk d' [] (Path.named path).dropLast = walk d [] (Path.named path).dropLast :=
    walk_congr hlast (fun location hl ↦ h location (hl.trans hway))
  rw [Path.named] at hwalk
  rw [locate, locate]
  simp only [hwalk]

theorem AgreesAlong.isDir_eq : isDir d' path = isDir d path := by
  rw [isDir, isDir, h.locate_eq hup]
  cases hl : locate d path with
  | error error => rfl
  | ok place =>
    cases place with
    | directory here => rfl
    | entry parent name slash =>
      have hsame := isDirectoryAt_congr (h.entryAt?_located hl)
      dsimp only
      rw [hsame]

theorem AgreesAlong.read_eq : read d' path = read d path := by
  rw [read, read, h.locate_eq hup]
  cases hl : locate d path with
  | error error => rfl
  | ok place =>
    cases place with
    | directory here => rfl
    | entry parent name slash =>
      rcases find?_cases (h.entryAt?_located hl) with
        ⟨hd, hd'⟩ | ⟨bytes, hd, hd'⟩ | ⟨entries, entries', hd, hd'⟩ <;>
        simp only [bind, Except.bind, hd, hd']

theorem AgreesAlong.target_eq : target d' path = target d path := by
  rw [target, target, h.locate_eq hup]
  cases hl : locate d path with
  | error error => rfl
  | ok place =>
    cases place with
    | directory here => rfl
    | entry parent name slash =>
      have hsame := isDirectoryAt_congr (h.entryAt?_located hl)
      simp only [bind, Except.bind, hsame]

theorem AgreesAlong.makeDir_eq :
    (makeDir d' path).map (fun _ ↦ ()) = (makeDir d path).map (fun _ ↦ ()) := by
  rw [makeDir, makeDir, h.locate_eq hup]
  cases hl : locate d path with
  | error error => rfl
  | ok place =>
    cases place with
    | directory here => rfl
    | entry parent name slash =>
      dsimp only [bind, Except.bind]
      split
      · rfl
      · rcases find?_cases (h.entryAt?_located hl) with
          ⟨hd, hd'⟩ | ⟨bytes, hd, hd'⟩ | ⟨entries, entries', hd, hd'⟩ <;>
          rw [hd, hd'] <;> rfl

end

theorem entryAt?_made (h : makeDir d path = .ok d') (other : Location) :
    entryAt? d' other =
      if other = Path.location path then some .directory else entryAt? d other := by
  obtain ⟨parent, name, slash, hl, -, hnone, rfl⟩ := exists_of_makeDir h
  have hn : ¬isDirectoryAt d (parent ++ [name]) := by simp [isDirectoryAt, hnone]
  rw [← (locate_eq_entry hl).1]
  exact entryAt?_put rfl (locate_eq_entry hl).2 hn other

/-- Two trees are the same, but for what is at some locations and below them. -/
def AgreesOutside (apart : List Location) (d d' : Directory) : Prop :=
  ∀ location, (∀ top ∈ apart, ¬top <+: location) → entryAt? d' location = entryAt? d location

structure Avoids (apart : List Location) (path : String) : Prop where
  up_not_mem : ".." ∉ Path.segments path
  not_above : ∀ top ∈ apart, ¬top <+: Path.location path

theorem Avoids.of_named (h : Avoids apart path) (habove : Path.named above <+: Path.named path) :
    Avoids apart above where
  up_not_mem := Path.up_not_mem_of_named h.up_not_mem habove
  not_above top ht hon := h.not_above top ht (hon.trans (Path.location_of_named h.up_not_mem habove))

namespace AgreesOutside

theorem along (h : AgreesOutside apart d d') (hpath : Avoids apart path) : AgreesAlong path d d' :=
  fun location hl ↦ h location (fun top ht hon ↦ hpath.not_above top ht (hon.trans hl))

/-- Trees still agree when the same has been put into both at the same place. -/
theorem of_put {what : Entry} (h : AgreesOutside apart d d')
    (he : ∀ other, entryAt? e other = if other = location then some what else entryAt? d other)
    (he' : ∀ other, entryAt? e' other = if other = location then some what else entryAt? d' other) :
    AgreesOutside apart e e' := by
  intro other ho
  rw [he, he', h other ho]

theorem write (h : AgreesOutside apart d d') (hw : d.write path bytes = .ok e)
    (hw' : d'.write path bytes = .ok e') : AgreesOutside apart e e' :=
  h.of_put (entryAt?_write hw) (entryAt?_write hw')

theorem makeDir (h : AgreesOutside apart d d') (hm : d.makeDir path = .ok e)
    (hm' : d'.makeDir path = .ok e') : AgreesOutside apart e e' :=
  h.of_put (entryAt?_made hm) (entryAt?_made hm')

end AgreesOutside

end Directory

end Bulletin
