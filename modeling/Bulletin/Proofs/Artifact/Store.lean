import Bulletin.Proofs.Artifact.RoundTrip
import Bulletin.Proofs.FileTree.Change

namespace Bulletin.Artifact

open Workspace

variable {r : Release} {path : String} {w w' : World}

def absentDirectory? (d : Directory) (path : String) : Option String :=
  (directory? path).filter (!d.isDir ·)

theorem run_missingDirectory? (path : String) (w : World) :
    StateT.run (missingDirectory? path : Sandbox _) w =
      pure (absentDirectory? w.files path, w) := by
  rw [missingDirectory?, absentDirectory?]
  cases directory? path with
  | none => rfl
  | some directory => cases hd : w.files.isDir directory <;> simp [hd, Option.filter]

theorem run_save_of_absent {directory : String}
    (h : absentDirectory? w.files path = some directory) :
    StateT.run (save r path : Sandbox _) w = pure (.error (.missingDirectory directory), w) := by
  simp [save, run_missingDirectory?, h]

theorem run_save_of_error {error : FileError} (h : absentDirectory? w.files path = none)
    (hw : w.files.write path (encode r) = .error error) :
    StateT.run (save r path : Sandbox _) w = pure (.error (.inaccessible path error), w) := by
  simp [save, run_missingDirectory?, h, Sandbox.run_writeFile_of_error hw, Except.mapError]

theorem run_save_of_ok {files : Directory} (h : absentDirectory? w.files path = none)
    (hw : w.files.write path (encode r) = .ok files) :
    StateT.run (save r path : Sandbox _) w = pure (.ok (), { w with files }) := by
  simp [save, run_missingDirectory?, h, Sandbox.run_writeFile_of_ok hw, Except.mapError]

/-- A release is either written to its file, or everything stays as it is. -/
theorem save_cases (r : Release) (path : String) (w : World) :
    (∃ files, w.files.write path (encode r) = .ok files ∧
      StateT.run (save r path : Sandbox _) w = pure (.ok (), { w with files })) ∨
    ∃ error, StateT.run (save r path : Sandbox _) w = pure (.error error, w) := by
  cases ha : absentDirectory? w.files path with
  | some directory => exact Or.inr ⟨_, run_save_of_absent ha⟩
  | none =>
    cases hw : w.files.write path (encode r) with
    | error error => exact Or.inr ⟨_, run_save_of_error ha hw⟩
    | ok files => exact Or.inl ⟨files, rfl, run_save_of_ok ha hw⟩

theorem persist_cases (r : Release) (path : String) (w : World) :
    (∃ files journal, w.files.write path (encode r) = .ok files ∧
      StateT.run (persist r path : Sandbox _) w = pure (true, ⟨files, journal⟩)) ∨
    ∃ journal, StateT.run (persist r path : Sandbox _) w = pure (false, ⟨w.files, journal⟩) := by
  rcases save_cases r path w with ⟨files, hwrite, hrun⟩ | ⟨error, hrun⟩
  · exact Or.inl ⟨files, _, hwrite, by simp [persist, hrun]; rfl⟩
  · cases error <;> exact Or.inr ⟨_, by simp [persist, hrun]; rfl⟩

theorem run_load_of_ok {bytes : List UInt8} (h : w.files.read path = .ok bytes) :
    StateT.run (load path : Sandbox _) w = pure ((decode bytes).mapError .malformed, w) := by
  simp [load, h]

theorem run_load_of_error {error : FileError} (h : w.files.read path = .error error) :
    ∃ failure, StateT.run (load path : Sandbox _) w = pure (.error failure, w) := by
  cases error <;> exact ⟨_, by simp [load, h]; rfl⟩

theorem load_cases (path : String) (w : World) :
    (∃ r bytes, w.files.read path = .ok bytes ∧ decode bytes = .ok r ∧
      StateT.run (load path : Sandbox _) w = pure (.ok r, w)) ∨
    ∃ failure, StateT.run (load path : Sandbox _) w = pure (.error failure, w) := by
  cases hr : w.files.read path with
  | error error => exact Or.inr (run_load_of_error hr)
  | ok bytes =>
    have hrun := run_load_of_ok hr
    cases hd : decode bytes with
    | error error =>
      rw [hd] at hrun
      exact Or.inr ⟨_, hrun⟩
    | ok r =>
      rw [hd] at hrun
      exact Or.inl ⟨r, bytes, rfl, hd, hrun⟩

/-- A release that has been stored is loaded as it was, and nothing but its file has changed. -/
theorem load_of_save (r : Release) (path : String) (w w' : World)
    (h : StateT.run (save r path : Sandbox _) w = pure (.ok (), w')) :
    StateT.run (load path : Sandbox _) w' = pure (.ok r, w') ∧
      ∃ location, w.files.target path = .ok location ∧
        ∀ other ≠ location, w'.files.entryAt? other = w.files.entryAt? other := by
  rcases save_cases r path w with ⟨files, hwrite, hrun⟩ | ⟨error, hrun⟩
  · obtain rfl : { w with files } = w' := congrArg Prod.snd (hrun.symm.trans h)
    refine ⟨?_, ?_⟩
    · rw [run_load_of_ok (Directory.read_write hwrite), decode_encode]
      rfl
    · obtain ⟨location, ht, rfl⟩ := Directory.exists_of_write hwrite
      refine ⟨location, ht, fun other ho ↦ ?_⟩
      rw [Directory.entryAt?_put_target ht, if_neg ho]
  · cases congrArg Prod.fst (hrun.symm.trans h)

theorem load_of_save_escaped :
    let r : Release := ⟨"a\"\\\n\x01\x7f", "\u2028𝄞\x7b\"title\": 1\x7d", ""⟩
    let w : World := ⟨[("notes", .file [1, 2]), ("temp", .directory [])], []⟩
    let w' : World := ⟨[("notes", .file [1, 2]),
      ("temp", .directory [("schema.json", .file (encode r))])], []⟩
    StateT.run (save r "temp/schema.json" : Sandbox _) w = pure (.ok (), w') ∧
      StateT.run (load "temp/schema.json" : Sandbox _) w' = pure (.ok r, w') ∧
      ∃ location, w.files.target "temp/schema.json" = .ok location ∧
        ∀ other ≠ location, w'.files.entryAt? other = w.files.entryAt? other := by
  intro r w w'
  have ht : w.files.target "temp/schema.json" = .ok ["temp", "schema.json"] := by decide +kernel
  have hput (bytes : List UInt8) : w.files.put (.file bytes) ["temp", "schema.json"] =
      [("notes", .file [1, 2]), ("temp", .directory [("schema.json", .file bytes)])] := rfl
  have hwrite : w.files.write "temp/schema.json" (encode r) = .ok w'.files :=
    (Directory.write_of_target ht).trans (congrArg Except.ok (hput (encode r)))
  have hsave : StateT.run (save r "temp/schema.json" : Sandbox _) w = pure (.ok (), w') :=
    run_save_of_ok (by decide +kernel) hwrite
  exact ⟨hsave, load_of_save r "temp/schema.json" w w' hsave⟩

end Bulletin.Artifact
