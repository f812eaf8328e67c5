import Bulletin.Json.Fault
import Bulletin.Proofs.FileTree.View
import Mathlib.Data.List.Basic

namespace Bulletin

namespace Path

def follow (here : Location) (segment : String) : Location :=
  if isIdle segment then here else if segment = ".." then here.dropLast else here ++ [segment]

/-- The location that a path leads to in a tree in which nothing stops it. -/
def location (path : String) : Location :=
  (segments path).foldl follow []

theorem follow_of_isIdle {here : Location} {segment : String} (h : isIdle segment) :
    follow here segment = here :=
  if_pos h

theorem follow_of_name {here : Location} {segment : String} (h : ¬isIdle segment)
    (h' : segment ≠ "..") : follow here segment = here ++ [segment] := by
  rw [follow, if_neg h, if_neg h']

theorem foldl_follow_filter (here : Location) (segments : List String) :
    (segments.filter (!·.isEmpty)).foldl follow here = segments.foldl follow here := by
  induction segments generalizing here with
  | nil => rfl
  | cons segment segments ih =>
    cases hs : segment.isEmpty with
    | true =>
      have hf : follow here segment = here := follow_of_isIdle (by simp [isIdle, hs])
      simpa [hs, hf] using ih here
    | false => simpa [hs] using ih (follow here segment)

theorem segments_of_toList {path : String} (front name : List Char)
    (h : path.toList = front ++ '/' :: name) (hn : '/' ∉ name) :
    segments path = segments (String.ofList front) ++ [String.ofList name] := by
  rw [segments, segments, h, List.splitOn_append_cons_self, List.splitOn_eq_singleton hn]
  simp

theorem segments_eq_singleton {name : String} (hn : '/' ∉ name.toList) :
    segments name = [name] := by
  rw [segments, List.splitOn_eq_singleton hn]
  simp

/-- A name below a path comes after its parts, but for the empty one behind a last slash. -/
theorem segments_join (path : String) {name : String} (hn : '/' ∉ name.toList) :
    ∃ front, segments (join path name) = front ++ [name] ∧
      (segments path = front ∨ segments path = front ++ [""]) := by
  rw [join]
  split
  · rename_i h
    rcases Bool.or_eq_true_iff.mp h with he | hslash
    · obtain rfl := String.isEmpty_iff.mp he
      refine ⟨[], ?_, Or.inr (segments_eq_singleton (by simp))⟩
      rw [String.empty_append, segments_eq_singleton hn, List.nil_append]
    · obtain ⟨front, hfront⟩ := List.getLast?_eq_some_iff.mp (of_decide_eq_true hslash)
      refine ⟨segments (String.ofList front), ?_, Or.inr ?_⟩
      · rw [segments_of_toList front name.toList (by simp [hfront]) hn, String.ofList_toList]
      · exact segments_of_toList front [] hfront (by simp)
  · refine ⟨segments path, ?_, Or.inl rfl⟩
    rw [segments_of_toList path.toList name.toList (by simp) hn, String.ofList_toList,
      String.ofList_toList]

def IsName (name : String) : Prop :=
  '/' ∉ name.toList ∧ ¬isIdle name ∧ name ≠ ".."

instance (name : String) : Decidable (IsName name) :=
  inferInstanceAs (Decidable (_ ∧ _))

theorem location_join (path : String) {name : String} (h : IsName name) :
    location (join path name) = location path ++ [name] := by
  obtain ⟨hn, hi, hup⟩ := h
  obtain ⟨front, hjoin, hpath⟩ := segments_join path hn
  have hfront : location path = front.foldl follow [] := by
    rcases hpath with hpath | hpath
    · rw [location, hpath]
    · rw [location, hpath, List.foldl_append]
      rfl
  rw [hfront, location, hjoin, List.foldl_append, ← follow_of_name hi hup]
  rfl

def named (path : String) : List String :=
  (segments path).filter (!·.isEmpty)

def IsSound (path : String) : Prop :=
  '\x00' ∉ path.toList ∧ path ≠ "" ∧ path.utf8ByteSize ≤ maxPathBytes

end Path

namespace Directory

variable {d d' : Directory} {here there parent location : Location} {name path : String}
  {segments : List String} {slash : Bool}

theorem walk_eq_ok (hw : walk d here segments = .ok there) :
    there = segments.foldl Path.follow here := by
  induction segments generalizing here with
  | nil => exact (Except.ok.inj hw).symm
  | cons segment segments ih =>
    rw [walk] at hw
    rw [List.foldl_cons]
    split at hw
    · rename_i hi
      rw [Path.follow_of_isIdle hi]
      exact ih hw
    · rename_i hi
      split at hw
      · rename_i hup
        subst hup
        exact ih hw
      · rename_i hup
        rw [Path.follow_of_name hi hup]
        split at hw
        · cases hw
        · split at hw
          · cases hw
          · cases hw
          · exact ih hw

theorem isDirectoryAt_walk (hh : isDirectoryAt d here) (hw : walk d here segments = .ok there) :
    isDirectoryAt d there := by
  induction segments generalizing here with
  | nil => exact Except.ok.inj hw ▸ hh
  | cons segment segments ih =>
    rw [walk] at hw
    split at hw
    · exact ih hh hw
    · split at hw
      · exact ih (isDirectoryAt_dropLast hh) hw
      · split at hw
        · cases hw
        · split at hw
          · cases hw
          · cases hw
          · rename_i entries he
            exact ih (isDirectoryAt_iff.mpr ⟨entries, he⟩) hw

theorem walk_mono (h : ∀ location, isDirectoryAt d location → isDirectoryAt d' location)
    (hw : walk d here segments = .ok there) : walk d' here segments = .ok there := by
  induction segments generalizing here with
  | nil => exact hw
  | cons segment segments ih =>
    rw [walk] at hw ⊢
    split at hw
    · rename_i hi
      rw [if_pos hi, ih hw]
    · rename_i hi
      rw [if_neg hi]
      split at hw
      · rename_i hup
        rw [if_pos hup, ih hw]
      · rename_i hup
        rw [if_neg hup]
        split at hw
        · cases hw
        · rename_i hlong
          rw [if_neg hlong]
          split at hw
          · cases hw
          · cases hw
          · rename_i entries he
            obtain ⟨entries', he'⟩ := isDirectoryAt_iff.mp
              (h _ (isDirectoryAt_iff.mpr ⟨entries, he⟩))
            simp only [he', ih hw]

theorem walk_filter (d : Directory) (here : Location) (parts : List String) :
    walk d here (parts.filter (!Path.isIdle ·)) = walk d here parts := by
  induction parts generalizing here with
  | nil => rfl
  | cons part parts ih =>
    by_cases hi : Path.isIdle part
    · rw [List.filter_cons_of_neg (by simpa using hi), ih, walk, if_pos hi]
    · rw [List.filter_cons_of_pos (by simpa using hi), walk, walk, if_neg hi, if_neg hi]
      simp only [ih]

theorem walk_append (d : Directory) (here : Location) (parts more : List String) :
    walk d here (parts ++ more) = (walk d here parts).bind (walk d · more) := by
  induction parts generalizing here with
  | nil => rfl
  | cons part parts ih =>
    rw [List.cons_append, walk, walk]
    split
    · exact ih here
    · split
      · exact ih here.dropLast
      · split
        · rfl
        · split
          · rfl
          · rfl
          · exact ih (here ++ [part])

theorem walk_singleton (hi : ¬Path.isIdle name) (hup : name ≠ "..") :
    walk d here [name] = .ok there ↔
      ¬isTooLong name ∧ isDirectoryAt d (here ++ [name]) ∧ there = here ++ [name] := by
  rw [walk, if_neg hi, if_neg hup, isDirectoryAt]
  by_cases hlong : isTooLong name
  · simp [hlong]
  · cases hf : find? d (here ++ [name]) with
    | none => simp [hlong]
    | some node => cases node <;> simp [hlong, walk, eq_comm]

theorem locate_of_isSound (hs : Path.IsSound path) : locate d path =
    match (Path.named path).getLast? with
    | none => .ok (.directory [])
    | some last => (walk d [] (Path.named path).dropLast).bind fun here ↦
      if last = "." then .ok (.directory here)
      else if last = ".." then .ok (.directory here.dropLast)
      else .ok (.entry here last ((Path.segments path).getLast? = some "")) := by
  obtain ⟨hnul, hempty, hlong⟩ := hs
  rw [locate, if_neg (by simpa using hnul), if_neg (by simpa using hempty),
    if_neg (Nat.not_lt.mpr hlong)]
  rfl

/-- A path names something in a directory if it is sound, its last part is a name and the parts in
front of it lead to the directory. -/
theorem locate_eq_entry_iff : locate d path = .ok (.entry parent name slash) ↔
    Path.IsSound path ∧ (Path.named path).getLast? = some name ∧
      walk d [] (Path.named path).dropLast = .ok parent ∧ name ≠ "." ∧ name ≠ ".." ∧
      slash = decide ((Path.segments path).getLast? = some "") := by
  constructor
  · intro h
    rw [locate] at h
    split at h
    · cases h
    rename_i hnul
    split at h
    · cases h
    rename_i hempty
    split at h
    · cases h
    rename_i hlong
    split at h
    · cases h
    · rename_i last hlast
      obtain ⟨here, hw, h⟩ := Json.exists_of_bind_eq_ok h
      split at h
      · cases h
      rename_i hdot
      split at h
      · cases h
      rename_i hup
      cases h
      exact ⟨⟨by simpa using hnul, by simpa using hempty, Nat.not_lt.mp hlong⟩, hlast, hw, hdot,
        hup, rfl⟩
  · rintro ⟨⟨hnul, hempty, hlong⟩, hlast, hw, hdot, hup, rfl⟩
    rw [Path.named] at hlast hw
    rw [locate, if_neg (by simpa using hnul), if_neg (by simpa using hempty),
      if_neg (Nat.not_lt.mpr hlong)]
    simp [hlast, hw, hdot, hup, bind, Except.bind]

theorem locate_eq_entry (h : locate d path = .ok (.entry parent name slash)) :
    parent ++ [name] = Path.location path ∧ isDirectoryAt d parent := by
  obtain ⟨-, hlast, hw, hdot, hup, -⟩ := locate_eq_entry_iff.mp h
  refine ⟨?_, isDirectoryAt_walk rfl hw⟩
  have hne := (List.mem_filter.mp (List.mem_of_getLast? hlast)).2
  have hi : ¬Path.isIdle name := by simpa [Path.isIdle, hdot] using hne
  have hsplit : (Path.named path).dropLast ++ [name] = Path.named path :=
    List.dropLast_append_getLast? _ hlast
  rw [Path.location, ← Path.foldl_follow_filter, ← Path.named, ← hsplit, List.foldl_append,
    List.foldl_cons, List.foldl_nil, ← walk_eq_ok hw, Path.follow_of_name hi hup]

theorem locate_mono (h : ∀ location, isDirectoryAt d location → isDirectoryAt d' location)
    {place : Place} (hl : locate d path = .ok place) : locate d' path = .ok place := by
  rw [locate] at hl ⊢
  split at hl
  · cases hl
  rename_i hnul
  split at hl
  · cases hl
  rename_i hempty
  split at hl
  · cases hl
  rename_i hlong
  rw [if_neg hnul, if_neg hempty, if_neg hlong]
  split at hl
  · exact hl
  · obtain ⟨here, hw, hl⟩ := Json.exists_of_bind_eq_ok hl
    rw [walk_mono h hw]
    exact hl

theorem isDir_mono (h : ∀ location, isDirectoryAt d location → isDirectoryAt d' location)
    (hdir : isDir d path) : isDir d' path := by
  rw [isDir] at hdir
  cases hl : locate d path with
  | error error => simp [hl] at hdir
  | ok place =>
    rw [isDir, locate_mono h hl]
    cases place with
    | directory here => rfl
    | entry parent name slash =>
      simp only [hl, Bool.and_eq_true] at hdir ⊢
      exact ⟨hdir.1, h _ hdir.2⟩

theorem isDir_congr (h : ∀ location, isDirectoryAt d' location = isDirectoryAt d location)
    (path : String) : isDir d' path = isDir d path := by
  refine Bool.eq_iff_iff.mpr ⟨isDir_mono ?_, isDir_mono ?_⟩
  · exact fun location hl ↦ (h location).symm.trans hl
  · exact fun location hl ↦ (h location).trans hl

end Directory

end Bulletin
