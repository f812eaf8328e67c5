import Bulletin.Proofs.FileTree.Resolution

namespace Bulletin.Directory

variable {d d' : Directory} {parent location : Location} {name path : String}
  {bytes : List UInt8} {node : Node}

theorem lookup_of_isDirectoryAt_cons (h : isDirectoryAt d (name :: parent)) :
    d.lookup name = some (.directory (inner d name)) ∧ isDirectoryAt (inner d name) parent := by
  obtain ⟨entries, he⟩ := isDirectoryAt_iff.mp h
  rw [find?_cons] at he
  cases hl : d.lookup name with
  | none => simp [hl] at he
  | some node =>
    cases node with
    | file bytes => simp [hl, Node.find?] at he
    | directory below =>
      have hi : inner d name = below := by rw [inner, hl]
      rw [hl, Option.bind_some, Node.find?] at he
      exact ⟨by rw [hi], isDirectoryAt_iff.mpr ⟨entries, hi ▸ he⟩⟩

theorem entryAt?_set_self (hl : node.isLeaf) (below : Location) :
    entryAt? (set name node d) (name :: below) =
      if below = [] then some (entryOf node) else none := by
  rw [entryAt?, find?_cons, lookup_set_self, Option.bind_some]
  cases node with
  | file bytes => cases below <;> simp [Node.find?]
  | directory entries =>
    obtain rfl := List.isEmpty_iff.mp hl
    cases below <;> simp [Node.find?, find?]

theorem entryAt?_set_of_ne {other : String} (h : other ≠ name) (below : Location) :
    entryAt? (set name node d) (other :: below) = entryAt? d (other :: below) := by
  rw [entryAt?, entryAt?, find?_cons, find?_cons, lookup_set_of_ne h]

theorem entryAt?_below (hn : ¬isDirectoryAt d location) {below : Location} (hb : below ≠ []) :
    entryAt? d (location ++ below) = none := by
  rw [entryAt?, find?_append]
  cases hf : find? d location with
  | none => rfl
  | some node =>
    cases node with
    | file bytes => simp [Node.find?, hb]
    | directory entries => exact absurd (isDirectoryAt_iff.mpr ⟨entries, hf⟩) hn

/-- A leaf that is put into a directory, not in place of one, changes nothing else. -/
theorem entryAt?_put (hl : node.isLeaf) (hp : isDirectoryAt d parent)
    (hn : ¬isDirectoryAt d (parent ++ [name])) (location : Location) :
    entryAt? (put d node (parent ++ [name])) location =
      if location = parent ++ [name] then some (entryOf node) else entryAt? d location := by
  induction parent generalizing d location with
  | nil =>
    rw [List.nil_append, put]
    cases location with
    | nil => rfl
    | cons other below =>
      by_cases ho : other = name
      · subst ho
        rw [entryAt?_set_self hl]
        by_cases hb : below = []
        · simp [hb]
        · simpa [hb] using (entryAt?_below hn hb).symm
      · simp [entryAt?_set_of_ne ho, ho]
  | cons first parent ih =>
    obtain ⟨hf, hp⟩ := lookup_of_isDirectoryAt_cons hp
    have hput : put d node (first :: parent ++ [name]) =
        set first (.directory (put (inner d first) node (parent ++ [name]))) d := by
      cases parent <;> rfl
    have hfind (below : Location) : find? d (first :: below) = find? (inner d first) below := by
      rw [find?_cons, hf, Option.bind_some, Node.find?]
    have hn' : ¬isDirectoryAt (inner d first) (parent ++ [name]) := by
      simpa only [isDirectoryAt, List.cons_append, hfind] using hn
    rw [hput]
    cases location with
    | nil => rfl
    | cons other below =>
      by_cases ho : other = first
      · subst ho
        have hput' : entryAt?
            (set other (.directory (put (inner d other) node (parent ++ [name]))) d)
            (other :: below) = entryAt? (put (inner d other) node (parent ++ [name])) below := by
          rw [entryAt?, find?_cons, lookup_set_self, Option.bind_some, Node.find?, entryAt?]
        have hsame : entryAt? (inner d other) below = entryAt? d (other :: below) := by
          rw [entryAt?, entryAt?, hfind]
        rw [hput', ih hp hn', hsame]
        simp
      · simp [entryAt?_set_of_ne ho, ho]

theorem exists_of_target (h : target d path = .ok location) :
    ∃ parent name, location = parent ++ [name] ∧
      locate d path = .ok (.entry parent name false) ∧ ¬isTooLong name ∧
      ¬isDirectoryAt d location := by
  obtain ⟨place, hl, h⟩ := Json.exists_of_bind_eq_ok h
  cases place with
  | directory here => cases h
  | entry parent name slash =>
    dsimp only at h
    split at h
    · cases h
    rename_i hslash
    split at h
    · cases h
    rename_i hlong
    split at h
    · cases h
    rename_i hdir
    cases h
    rw [Bool.not_eq_true] at hslash
    exact ⟨parent, name, rfl, hslash ▸ hl, hlong, hdir⟩

theorem target_eq_ok (h : target d path = .ok location) : location = Path.location path := by
  obtain ⟨parent, name, rfl, hl, -, -⟩ := exists_of_target h
  exact (locate_eq_entry hl).1

/-- What a path is resolved to for writing can be written, and nothing else changes. -/
theorem entryAt?_put_target (h : target d path = .ok location) (bytes : List UInt8)
    (other : Location) :
    entryAt? (put d (.file bytes) location) other =
      if other = location then some (.file bytes) else entryAt? d other := by
  obtain ⟨parent, name, rfl, hl, -, hn⟩ := exists_of_target h
  exact entryAt?_put rfl (locate_eq_entry hl).2 hn other

theorem write_of_target (h : target d path = .ok location) :
    write d path bytes = .ok (put d (.file bytes) location) := by
  rw [write, h]
  rfl

theorem exists_of_write (h : write d path bytes = .ok d') :
    ∃ location, target d path = .ok location ∧ d' = put d (.file bytes) location := by
  obtain ⟨location, ht, h⟩ := Json.exists_of_bind_eq_ok h
  exact ⟨location, ht, (Except.ok.inj h).symm⟩

theorem entryAt?_write (h : write d path bytes = .ok d') (other : Location) :
    entryAt? d' other =
      if other = Path.location path then some (.file bytes) else entryAt? d other := by
  obtain ⟨location, ht, rfl⟩ := exists_of_write h
  obtain rfl := target_eq_ok ht
  exact entryAt?_put_target ht bytes other

theorem append_eq_write (d : Directory) (path : String) (bytes : List UInt8) :
    append d path bytes = write d path (bytesAt d (Path.location path) ++ bytes) := by
  rw [append, write]
  cases ht : target d path with
  | error error => rfl
  | ok location =>
    rw [target_eq_ok ht]
    rfl

theorem entryAt?_append (h : append d path bytes = .ok d') (other : Location) :
    entryAt? d' other =
      if other = Path.location path then some (.file (bytesAt d other ++ bytes))
      else entryAt? d other := by
  rw [append_eq_write] at h
  rw [entryAt?_write h]
  split
  · rename_i ho
    rw [ho]
  · rfl

theorem exists_of_makeDir (h : makeDir d path = .ok d') :
    ∃ parent name slash, locate d path = .ok (.entry parent name slash) ∧ ¬isTooLong name ∧
      find? d (parent ++ [name]) = none ∧ d' = put d (.directory []) (parent ++ [name]) := by
  obtain ⟨place, hl, h⟩ := Json.exists_of_bind_eq_ok h
  cases place with
  | directory here => cases h
  | entry parent name slash =>
    dsimp only at h
    split at h
    · cases h
    rename_i hlong
    split at h
    · cases h
    · rename_i hnone
      rw [Bool.not_eq_true, Option.isSome_eq_false_iff, Option.isNone_iff_eq_none] at hnone
      exact ⟨parent, name, slash, hl, hlong, hnone, (Except.ok.inj h).symm⟩

theorem entryAt?_makeDir (h : makeDir d path = .ok d') (other : Location) :
    entryAt? d' other = entryAt? d other ∨
      other = Path.location path ∧ entryAt? d other = none ∧
        entryAt? d' other = some .directory := by
  obtain ⟨parent, name, slash, hl, -, hnone, rfl⟩ := exists_of_makeDir h
  have hn : ¬isDirectoryAt d (parent ++ [name]) := by simp [isDirectoryAt, hnone]
  rw [entryAt?_put rfl (locate_eq_entry hl).2 hn]
  split
  · rename_i ho
    exact Or.inr ⟨ho.trans (locate_eq_entry hl).1, by rw [ho, entryAt?, hnone]; rfl, rfl⟩
  · exact Or.inl rfl

theorem isDirectoryAt_makeDir (h : makeDir d path = .ok d') {other : Location}
    (ho : isDirectoryAt d other) : isDirectoryAt d' other := by
  rw [isDirectoryAt_eq] at ho ⊢
  rcases entryAt?_makeDir h other with he | ⟨-, -, he⟩
  · rwa [he]
  · rw [he]

theorem entryAt?_of_read (h : read d path = .ok bytes) :
    entryAt? d (Path.location path) = some (.file bytes) := by
  obtain ⟨place, hl, h⟩ := Json.exists_of_bind_eq_ok h
  cases place with
  | directory here => cases h
  | entry parent name slash =>
    dsimp only at h
    split at h
    · cases h
    split at h
    · cases h
    · cases h
    · rename_i found hf
      split at h
      · cases h
      · cases h
        rw [← (locate_eq_entry hl).1]
        exact entryAt?_eq_file_iff.mpr hf

theorem isDirectoryAt_write (h : write d path bytes = .ok d') (other : Location) :
    isDirectoryAt d' other = isDirectoryAt d other := by
  obtain ⟨location, ht, rfl⟩ := exists_of_write h
  obtain ⟨parent, name, rfl, -, -, hn⟩ := exists_of_target ht
  rw [isDirectoryAt_eq, entryAt?_put_target ht]
  by_cases ho : other = parent ++ [name]
  · rw [if_pos ho, ho, Bool.eq_false_iff.mpr hn]
  · rw [if_neg ho, ← isDirectoryAt_eq]

theorem locate_write (h : write d path bytes = .ok d')
    (hl : locate d path = .ok (.entry parent name false)) :
    locate d' path = .ok (.entry parent name false) :=
  locate_mono (fun other ho ↦ (isDirectoryAt_write h other).trans ho) hl

theorem read_write (h : write d path bytes = .ok d') : read d' path = .ok bytes := by
  have hfound := entryAt?_write h
  obtain ⟨location, ht, -⟩ := exists_of_write h
  obtain ⟨parent, name, rfl, hl, hlong, -⟩ := exists_of_target ht
  have hfile : find? d' (parent ++ [name]) = some (.file bytes) :=
    entryAt?_eq_file_iff.mp (by rw [hfound, if_pos (target_eq_ok ht)])
  rw [read, locate_write h hl]
  simp [bind, Except.bind, hlong, hfile]

theorem target_write (h : write d path bytes = .ok d') : target d' path = target d path := by
  obtain ⟨location, ht, -⟩ := exists_of_write h
  obtain ⟨parent, name, rfl, hl, hlong, hn⟩ := exists_of_target ht
  rw [ht, target, locate_write h hl]
  simp [bind, Except.bind, hlong, isDirectoryAt_write h, hn]

theorem exists_write_of_read (h : read d path = .ok bytes) (bytes' : List UInt8) :
    ∃ d', write d path bytes' = .ok d' := by
  obtain ⟨place, hl, h⟩ := Json.exists_of_bind_eq_ok h
  cases place with
  | directory here => cases h
  | entry parent name slash =>
    dsimp only at h
    split at h
    · cases h
    rename_i hlong
    split at h
    · cases h
    · cases h
    · rename_i found hf
      split at h
      · cases h
      · rename_i hslash
        have hdir : isDirectoryAt d (parent ++ [name]) = false := by rw [isDirectoryAt, hf]
        have ht : target d path = .ok (parent ++ [name]) := by
          rw [target, hl]
          simp [bind, Except.bind, hslash, hlong, hdir]
        exact ⟨_, write_of_target ht⟩

theorem set_set (name : String) (node node' : Node) (d : Directory) :
    set name node' (set name node d) = set name node' d := by
  induction d with
  | nil => simp [set]
  | cons entry d ih =>
    obtain ⟨other, old⟩ := entry
    by_cases ho : other = name <;> simp [set, ho, ih]

theorem put_put (d : Directory) (node node' : Node) (location : Location) :
    put (put d node location) node' location = put d node' location := by
  induction location generalizing d with
  | nil => rfl
  | cons name below ih =>
    cases below with
    | nil => exact set_set name node node' d
    | cons next below =>
      have hput (d : Directory) (node : Node) : put d node (name :: next :: below) =
          set name (.directory (put (inner d name) node (next :: below))) d := rfl
      have hinner (entries : Directory) :
          inner (set name (.directory entries) d) name = entries := by
        rw [inner, lookup_set_self]
      rw [hput, hput, hinner, ih, set_set, hput]

theorem write_write (h : write d path bytes = .ok d') (bytes' : List UInt8) :
    write d' path bytes' = write d path bytes' := by
  have ht' := target_write h
  obtain ⟨location, ht, rfl⟩ := exists_of_write h
  rw [ht] at ht'
  rw [write_of_target ht, write_of_target ht', put_put]

end Bulletin.Directory
