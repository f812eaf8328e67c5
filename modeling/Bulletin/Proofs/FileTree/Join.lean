import Bulletin.Proofs.FileTree.Change

namespace Bulletin

namespace Path

variable {path name : String}

theorem named_join (path : String) (h : IsName name) :
    named (join path name) = named path ++ [name] := by
  obtain ⟨hn, hi, -⟩ := h
  obtain ⟨front, hjoin, hpath⟩ := segments_join path hn
  have hne : name.isEmpty = false := by
    rw [isIdle, Bool.or_eq_true, not_or, Bool.not_eq_true] at hi
    exact hi.1
  rcases hpath with hpath | hpath <;> simp [named, hjoin, hpath, hne]

theorem getLast?_segments_join (path : String) (h : IsName name) :
    (segments (join path name)).getLast? = some name := by
  obtain ⟨front, hjoin, -⟩ := segments_join path h.1
  rw [hjoin, List.getLast?_concat]

theorem join_ne_empty (path : String) (h : IsName name) : join path name ≠ "" := by
  intro hempty
  have hlast := getLast?_segments_join path h
  rw [hempty] at hlast
  cases hlast
  exact h.2.1 rfl

theorem up_not_mem_segments_join (hup : ".." ∉ segments path) (h : IsName name) :
    ".." ∉ segments (join path name) := by
  obtain ⟨front, hjoin, hpath⟩ := segments_join path h.1
  have hfront : ".." ∉ front := by
    rcases hpath with hpath | hpath
    · exact hpath ▸ hup
    · exact fun hm ↦ hup (hpath ▸ List.mem_append_left _ hm)
  rw [hjoin, List.mem_append, List.mem_singleton, not_or]
  exact ⟨hfront, h.2.2.symm⟩

theorem nul_mem_join (path name : String) :
    '\x00' ∈ (join path name).toList ↔ '\x00' ∈ path.toList ∨ '\x00' ∈ name.toList := by
  rw [join]
  split <;> simp

theorem utf8ByteSize_join (path name : String) :
    (join path name).utf8ByteSize = path.utf8ByteSize + name.utf8ByteSize ∨
      (join path name).utf8ByteSize = path.utf8ByteSize + 1 + name.utf8ByteSize := by
  rw [join]
  split
  · exact Or.inl String.utf8ByteSize_append
  · exact Or.inr (by rw [String.utf8ByteSize_append, String.utf8ByteSize_append]; rfl)

theorem isSound_join_iff (h : IsName name) : IsSound (join path name) ↔
    '\x00' ∉ path.toList ∧ '\x00' ∉ name.toList ∧
      (join path name).utf8ByteSize ≤ maxPathBytes := by
  rw [IsSound, nul_mem_join, not_or, and_assoc]
  refine and_congr_right (fun _ ↦ and_congr_right (fun _ ↦ and_iff_right (fun hempty ↦ ?_)))
  have hlast := getLast?_segments_join path h
  rw [hempty] at hlast
  exact h.2.1 (by cases hlast; rfl)

theorem IsSound.beside {anchor : String} (ha : IsSound (join path anchor)) (h : IsName name)
    (hnul : '\x00' ∉ name.toList) :
    IsSound (join path name) ↔ (join path name).utf8ByteSize ≤ maxPathBytes := by
  have hpath : '\x00' ∉ path.toList := fun hp ↦ ha.1 ((nul_mem_join path anchor).mpr (Or.inl hp))
  rw [isSound_join_iff h]
  exact ⟨fun hs ↦ hs.2.2, fun hlong ↦ ⟨hpath, hnul, hlong⟩⟩

theorem segments_push (path : String) : segments (path.push '/') = segments path ++ [""] := by
  rw [segments_of_toList path.toList [] (by simp) (by simp), String.ofList_toList]

theorem segments_pushn (path : String) (n : Nat) :
    segments (path.pushn '/' n) = segments path ++ List.replicate n "" := by
  rw [String.pushn_eq_repeat_push]
  induction n with
  | zero => simp [Nat.repeat]
  | succ n ih => rw [Nat.repeat, segments_push, ih, List.append_assoc, List.replicate_succ']

theorem named_pushn (path : String) (n : Nat) : named (path.pushn '/' n) = named path := by
  simp [named, segments_pushn]

theorem utf8ByteSize_pushn (path : String) (n : Nat) :
    (path.pushn '/' n).utf8ByteSize = path.utf8ByteSize + n := by
  rw [String.pushn_eq_repeat_push]
  induction n with
  | zero => rfl
  | succ n ih =>
    have hslash : '/'.utf8Size = 1 := rfl
    rw [Nat.repeat, String.utf8ByteSize_push, ih, hslash, Nat.add_assoc]

theorem nul_mem_pushn (path : String) (n : Nat) :
    '\x00' ∈ (path.pushn '/' n).toList ↔ '\x00' ∈ path.toList := by
  rw [String.pushn_eq_repeat_push]
  induction n with
  | zero => rfl
  | succ n ih => simp [Nat.repeat, ih]

theorem foldl_follow_isPrefix {names : List String} (hup : ".." ∉ names) (here : Location) :
    here <+: names.foldl follow here := by
  induction names generalizing here with
  | nil => exact List.prefix_rfl
  | cons segment segments ih =>
    obtain ⟨hne, hup⟩ := not_or.mp (List.mem_cons.not.mp hup)
    refine List.IsPrefix.trans ?_ (ih hup (follow here segment))
    rw [follow, if_neg (Ne.symm hne)]
    split
    · exact List.prefix_rfl
    · exact List.prefix_append here [segment]

theorem foldl_follow_named (path : String) : (named path).foldl follow [] = location path :=
  foldl_follow_filter [] (segments path)

end Path

namespace Directory

variable {d d' : Directory} {path name : String} {here there : Location} {segments : List String}

theorem locate_join (h : Path.IsName name) (hs : Path.IsSound (Path.join path name)) :
    locate d (Path.join path name) =
      (walk d [] (Path.named path)).map fun here ↦ .entry here name false := by
  have hlast := Path.getLast?_segments_join path h
  rw [locate_of_isSound hs, Path.named_join path h, hlast, List.getLast?_concat,
    List.dropLast_concat]
  obtain ⟨-, hi, hup⟩ := h
  rw [Path.isIdle, Bool.or_eq_true, not_or, beq_iff_eq] at hi
  have hne : name ≠ "" := by simpa using hi.1
  cases walk d [] (Path.named path) <;> simp [Except.map, Except.bind, hi.2, hup, hne]

theorem exists_locate_of_not_isSound (hs : ¬Path.IsSound path) :
    ∃ error, ∀ d, locate d path = .error error := by
  by_cases hnul : '\x00' ∈ path.toList
  · exact ⟨.nulInName, fun d ↦ by rw [locate, if_pos (by simpa using hnul)]⟩
  · by_cases hempty : path = ""
    · exact ⟨.notFound, fun d ↦ by subst hempty; rfl⟩
    · have hlong : maxPathBytes < path.utf8ByteSize :=
        Nat.lt_of_not_le (fun hle ↦ hs ⟨hnul, hempty, hle⟩)
      refine ⟨.nameTooLong, fun d ↦ ?_⟩
      rw [locate, if_neg (by simpa using hnul), if_neg (by simpa using hempty), if_pos hlong]

theorem isSound_of_isDir (h : isDir d path) : Path.IsSound path := by
  by_contra hs
  obtain ⟨error, hl⟩ := exists_locate_of_not_isSound hs
  rw [isDir, hl] at h
  cases h

theorem walk_of_isDir_join (h : Path.IsName name) (hdir : isDir d (Path.join path name)) :
    walk d [] (Path.named path) = .ok (Path.location path) ∧
      isDirectoryAt d (Path.location path ++ [name]) := by
  have hl := locate_join (d := d) h (isSound_of_isDir hdir)
  cases hw : walk d [] (Path.named path) with
  | error error =>
    rw [isDir, hl, hw] at hdir
    cases hdir
  | ok here =>
    obtain rfl : here = Path.location path := (walk_eq_ok hw).trans (Path.foldl_follow_named path)
    rw [isDir, hl, hw] at hdir
    exact ⟨rfl, (Bool.and_eq_true_iff.mp hdir).2⟩

section

variable (hwalk : walk d [] (Path.named path) = .ok (Path.location path)) (h : Path.IsName name)
include hwalk h

theorem read_join_iff {bytes : List UInt8} : read d (Path.join path name) = .ok bytes ↔
    Path.IsSound (Path.join path name) ∧ ¬isTooLong name ∧
      entryAt? d (Path.location path ++ [name]) = some (.file bytes) := by
  by_cases hs : Path.IsSound (Path.join path name)
  · have hl := locate_join (d := d) h hs
    rw [hwalk] at hl
    rw [read, hl, entryAt?_eq_file_iff]
    by_cases hlong : isTooLong name
    · simp [Except.map, bind, Except.bind, hlong]
    · simp only [Except.map, bind, Except.bind, hlong, hs, true_and]
      cases hf : find? d (Path.location path ++ [name]) with
      | none => simp
      | some node => cases node <;> simp
  · obtain ⟨error, hl⟩ := exists_locate_of_not_isSound hs
    simp [read, hl, bind, Except.bind, hs]

theorem target_join_iff {location : Location} : target d (Path.join path name) = .ok location ↔
    Path.IsSound (Path.join path name) ∧ ¬isTooLong name ∧
      ¬isDirectoryAt d (Path.location path ++ [name]) ∧
      location = Path.location path ++ [name] := by
  by_cases hs : Path.IsSound (Path.join path name)
  · have hl := locate_join (d := d) h hs
    rw [hwalk] at hl
    rw [target, hl]
    by_cases hlong : isTooLong name
    · simp [Except.map, bind, Except.bind, hlong]
    · by_cases hdir : isDirectoryAt d (Path.location path ++ [name])
      · simp [Except.map, bind, Except.bind, hlong, hdir]
      · simp [Except.map, bind, Except.bind, hlong, hdir, hs, eq_comm]
  · obtain ⟨error, hl⟩ := exists_locate_of_not_isSound hs
    simp [target, hl, bind, Except.bind, hs]

/-- A file can be written below a directory unless a directory takes its place or its path cannot be
looked for. -/
theorem exists_write_join_iff {bytes : List UInt8} :
    (∃ files, write d (Path.join path name) bytes = .ok files) ↔
      Path.IsSound (Path.join path name) ∧ ¬isTooLong name ∧
        ¬isDirectoryAt d (Path.location path ++ [name]) := by
  constructor
  · rintro ⟨files, hw⟩
    obtain ⟨location, ht, -⟩ := exists_of_write hw
    obtain ⟨hs, hlong, hdir, -⟩ := (target_join_iff hwalk h).mp ht
    exact ⟨hs, hlong, hdir⟩
  · rintro ⟨hs, hlong, hdir⟩
    exact ⟨_, write_of_target ((target_join_iff hwalk h).mpr ⟨hs, hlong, hdir, rfl⟩)⟩

end

/-- Parts that lead to a directory in one tree lead to it in any tree that has it, if none of them
goes up. -/
theorem walk_of_isDirectoryAt (hw : walk d' here segments = .ok there) (hup : ".." ∉ segments)
    (hd : isDirectoryAt d there) : walk d here segments = .ok there := by
  induction segments generalizing here with
  | nil => exact hw
  | cons segment segments ih =>
    obtain ⟨hne, hup'⟩ := not_or.mp (List.mem_cons.not.mp hup)
    rw [walk] at hw ⊢
    split at hw
    · rename_i hi
      rw [if_pos hi]
      exact ih hw hup'
    · rename_i hi
      rw [if_neg (Ne.symm hne)] at hw ⊢
      rw [if_neg hi]
      split at hw
      · cases hw
      · rename_i hlong
        rw [if_neg hlong]
        split at hw
        · cases hw
        · cases hw
        · -- What is passed through lies above where the parts lead.
          obtain ⟨below, hbelow⟩ : here ++ [segment] <+: there := by
            rw [walk_eq_ok hw]
            exact Path.foldl_follow_isPrefix hup' _
          obtain ⟨entries, he⟩ := isDirectoryAt_iff.mp
            (isDirectoryAt_of_append (hbelow ▸ hd))
          simp only [he]
          exact ih hw hup'

end Directory

end Bulletin
