import Bulletin.Command.Run
import Bulletin.Proofs.Pipeline
import Bulletin.Proofs.Pipeline.Outcome

namespace Bulletin

open Directory Sandbox Workspace

variable {α ε : Type} {R : Directory → Directory → Prop} {w : World}

def Sandbox.isError (outcome : Except ε α) : Bool :=
  !outcome.isOk

/-- Where an action fails, the files after it are related to those before it. -/
def Sandbox.FailsWith (R : Directory → Directory → Prop) (failed : α → Bool) (x : Sandbox α) :
    Prop :=
  ∀ w, failed (x.run w).1 → R w.files (x.run w).2.files

namespace Sandbox

variable {failed : α → Bool} {x : Sandbox α}

theorem FailsWith.at_failure (h : FailsWith R failed x) (hfailed : failed (x.run w).1) :
    failed (x.run w).1 ∧ R w.files (x.run w).2.files :=
  ⟨hfailed, h w hfailed⟩

theorem FailsWith.of_run (h : ∀ w, ∃ a w', StateT.run x w = pure (a, w') ∧
    (failed a → R w.files w'.files)) : FailsWith R failed x := by
  intro w hfailed
  obtain ⟨a, w', hrun, hfiles⟩ := h w
  rw [hrun] at hfailed ⊢
  exact hfiles hfailed

theorem failsWith_change (f : Directory → Except FileError Directory) :
    FailsWith Eq isError (change f) := by
  apply FailsWith.of_run
  intro w
  cases hf : f w.files with
  | error error => exact ⟨_, _, run_change_of_error hf, fun _ ↦ rfl⟩
  | ok files => exact ⟨_, _, run_change_of_ok hf, nofun⟩

theorem FailsWith.mapError {ε' : Type} {x : Sandbox (Except ε α)} (h : FailsWith R isError x)
    (g : ε → ε') : FailsWith R isError (do return (← x).mapError g) := by
  intro w hfailed
  apply h w
  change isError ((x.run w).1.mapError g) at hfailed
  cases houtcome : (x.run w).1 with
  | ok a =>
    rw [houtcome] at hfailed
    cases hfailed
  | error error => rfl

end Sandbox

theorem Template.writeDefault_failsWith (path : String) :
    FailsWith Eq isError (writeDefault path : Sandbox _) := by
  rw [writeDefault]
  exact failsWith_change (·.write path (Utf8.encode default))

theorem Output.appendTo_failsWith (o : Output) (sink : String) :
    FailsWith Eq isError (o.appendTo sink : Sandbox _) := by
  rw [appendTo]
  exact (failsWith_change (·.append sink (Utf8.encode o.text))).mapError (EmitError.sink sink)

namespace Artifact

theorem save_failsWith (r : Release) (path : String) :
    FailsWith Eq isError (save r path : Sandbox _) := by
  apply FailsWith.of_run
  intro w
  rcases save_cases r path w with ⟨files, -, hrun⟩ | ⟨error, hrun⟩
  · exact ⟨_, _, hrun, nofun⟩
  · exact ⟨_, _, hrun, fun _ ↦ rfl⟩

theorem persist_failsWith (r : Release) (path : String) :
    FailsWith Eq not (persist r path : Sandbox _) := by
  apply FailsWith.of_run
  intro w
  rcases persist_cases r path w with ⟨files, journal, -, hrun⟩ | ⟨journal, hrun⟩
  · exact ⟨_, _, hrun, nofun⟩
  · exact ⟨_, _, hrun, fun _ ↦ rfl⟩

end Artifact

theorem run_emit_of_load {artifact sink : String} {failure : ArtifactError}
    (h : StateT.run (Artifact.load artifact : Sandbox _) w = pure (.error failure, w)) :
    StateT.run (emit artifact sink : Sandbox _) w = pure (.error (.artifact failure), w) := by
  simp [emit, h]

theorem emit_failsWith (artifact sink : String) :
    FailsWith Eq isError (emit artifact sink : Sandbox _) := by
  apply FailsWith.of_run
  intro w
  rcases emit_cases artifact sink w with ⟨r, bytes, files, journal, -, -, -, hrun⟩ | ⟨error, hrun⟩
  · exact ⟨_, _, hrun, nofun⟩
  · exact ⟨_, _, hrun, fun _ ↦ rfl⟩

theorem compose_failsWith (l : Layout) (context : Context) :
    FailsWith (AddsAlong l.artifactDirectory) isError (compose l context : Sandbox _) := by
  apply FailsWith.of_run
  intro w
  have hadds := makeDirs_addsAlong l.artifactDirectory w
  obtain ⟨outcome, w₁, hmake⟩ : ∃ outcome w₁,
      StateT.run (makeDirs l.artifactDirectory : Sandbox _) w = pure (outcome, w₁) :=
    ⟨_, _, rfl⟩
  cases outcome with
  | error error =>
    rw [hmake] at hadds
    exact ⟨_, _, run_compose_of_error hmake, fun _ ↦ hadds⟩
  | ok made =>
    obtain ⟨journal, hrun⟩ := @run_compose_of_makeDirs l context _ _ hmake
    exact ⟨_, _, hrun, nofun⟩

namespace Command

/-- What a request that fails makes of the files. -/
def Request.Leaves : Request → Directory → Directory → Prop
  | compose root _, d, d' => AddsAlong (Layout.mk root).artifactDirectory d d'
  | emit .., d, d' => d = d'

theorem exit_cases {x : Sandbox (Except ε α)} {f : Except ε α → Sandbox Exit} {notice : ε → Notice}
    (hok : ∀ a, f (.ok a) = return .success)
    (herror : ∀ error, f (.error error) = do log (notice error); return .failure)
    (h : FailsWith R isError x) (w : World) :
    ∃ exit w', StateT.run (x >>= f) w = pure (exit, w') ∧
      (exit = .success ∨ exit = .failure ∧ R w.files w'.files) := by
  have hfiles := h w
  obtain ⟨outcome, w₁, hx⟩ : ∃ outcome w₁, StateT.run x w = pure (outcome, w₁) := ⟨_, _, rfl⟩
  rw [hx] at hfiles
  rw [StateT.run_bind, hx, pure_bind]
  cases outcome with
  | ok a => exact ⟨.success, w₁, by rw [hok]; rfl, Or.inl rfl⟩
  | error error =>
    refine ⟨.failure, ⟨w₁.files, w₁.journal ++ [notice error]⟩, ?_, Or.inr ⟨rfl, hfiles rfl⟩⟩
    rw [herror]
    rfl

theorem perform_cases (request : Request) (w : World) :
    ∃ exit w', StateT.run (perform request : Sandbox _) w = pure (exit, w') ∧
      (exit = .success ∨ exit = .failure ∧ request.Leaves w.files w'.files) := by
  cases request with
  | compose root context =>
    exact exit_cases (fun _ ↦ rfl) (fun _ ↦ rfl) (compose_failsWith ⟨root⟩ context) w
  | emit root artifact sink =>
    exact exit_cases (fun _ ↦ rfl) (fun _ ↦ rfl) (emit_failsWith _ sink) w

variable {arguments : List String} {environment : Option String}

theorem run_failsWith_two (arguments : List String) (environment : Option String) :
    FailsWith Eq (·.code = 2) (run arguments environment : Sandbox _) := by
  intro w hfailed
  rw [run] at hfailed ⊢
  split at hfailed
  · rfl
  · rename_i request hread
    obtain ⟨exit, w', hrun, rfl | ⟨rfl, -⟩⟩ := perform_cases request w
    · rw [hrun] at hfailed
      cases hfailed
    · rw [hrun] at hfailed
      cases hfailed

theorem run_failsWith_one (arguments : List String) (environment : Option String) :
    FailsWith (fun d d' ↦ ∃ request, Request.read arguments environment = .ok request ∧
      request.Leaves d d') (·.code = 1) (run arguments environment : Sandbox _) := by
  intro w hfailed
  rw [run] at hfailed ⊢
  split at hfailed
  · rename_i stop hread
    cases stop <;> cases hfailed
  · rename_i request hread
    obtain ⟨exit, w', hrun, rfl | ⟨rfl, hleaves⟩⟩ := perform_cases request w
    · rw [hrun] at hfailed
      cases hfailed
    · rw [hread, hrun]
      exact ⟨request, rfl, hleaves⟩

end Command

/-- What fails has not touched a file. A directory that is missing is not created, and a sink is not
looked at without an artifact; only where the directory for the artifact cannot be created there may
be new directories that its path passes. -/
theorem failure_keeps_files :
    (∀ r path, FailsWith Eq isError (Artifact.save r path : Sandbox _)) ∧
    (∀ r path w directory, Artifact.directory? path = some directory → ¬w.files.isDir directory →
      StateT.run (Artifact.save r path : Sandbox _) w =
        pure (.error (.missingDirectory directory), w)) ∧
    (∀ r path, FailsWith Eq not (Artifact.persist r path : Sandbox _)) ∧
    (∀ (o : Output) sink, FailsWith Eq isError (o.appendTo sink : Sandbox _)) ∧
    (∀ artifact sink, FailsWith Eq isError (emit artifact sink : Sandbox _)) ∧
    (∀ artifact sink w,
      (∀ bytes r, w.files.read artifact = .ok bytes → Artifact.decode bytes ≠ .ok r) →
      ∃ failure, StateT.run (emit artifact sink : Sandbox _) w =
        pure (.error (.artifact failure), w)) ∧
    (∀ path, FailsWith Eq isError (Template.writeDefault path : Sandbox _)) ∧
    (∀ l context,
      FailsWith (AddsAlong l.artifactDirectory) isError (compose l context : Sandbox _)) ∧
    (∀ arguments environment,
      FailsWith (fun d d' ↦ ∃ request, Command.Request.read arguments environment = .ok request ∧
        request.Leaves d d') (·.code = 1) (Command.run arguments environment : Sandbox _)) ∧
    ∀ arguments environment,
      FailsWith Eq (·.code = 2) (Command.run arguments environment : Sandbox _) := by
  refine ⟨Artifact.save_failsWith, ?_, Artifact.persist_failsWith, Output.appendTo_failsWith,
    emit_failsWith, ?_, Template.writeDefault_failsWith, compose_failsWith,
    Command.run_failsWith_one, Command.run_failsWith_two⟩
  · intro r path w directory hdirectory habsent
    apply Artifact.run_save_of_absent
    rw [Artifact.absentDirectory?, hdirectory]
    simp [Option.filter, habsent]
  · intro artifact sink w hnone
    rcases Artifact.load_cases artifact w with ⟨r, bytes, hread, hdecode, -⟩ | ⟨failure, hload⟩
    · exact absurd hdecode (hnone bytes r hread)
    · exact ⟨failure, run_emit_of_load hload⟩

theorem failure_keeps_files_beside_file :
    let w : World := ⟨[("temp", .file [7])], []⟩
    let r : Release := ⟨"a", "b", "1"⟩
    let arguments := ["compose", "--root=new/..", "--commit_hash=", "--repo_name=",
      "--contributors_since=", "--whats_changed_url="]
    let saving : Sandbox _ := Artifact.save r "temp/schema.json"
    let persisting : Sandbox _ := Artifact.persist r "temp/schema.json"
    let appending : Sandbox _ := (Output.ofRelease r).appendTo "temp/out"
    let emitting : Sandbox _ := emit "temp/schema.json" "out"
    let writing : Sandbox _ := Template.writeDefault "temp/template"
    let composing : Sandbox _ := compose ⟨"new/.."⟩ ⟨"", "", "", ""⟩
    let running : Sandbox _ := Command.run arguments none
    let misreading : Sandbox _ := Command.run ["compose"] none
    (isError (saving.run w).1 ∧ w.files = (saving.run w).2.files) ∧
    saving.run w = pure (.error (.missingDirectory "temp"), w) ∧
    (!(persisting.run w).1 ∧ w.files = (persisting.run w).2.files) ∧
    (isError (appending.run w).1 ∧ w.files = (appending.run w).2.files) ∧
    (isError (emitting.run w).1 ∧ w.files = (emitting.run w).2.files) ∧
    (∃ failure, emitting.run w = pure (.error (.artifact failure), w)) ∧
    (isError (writing.run w).1 ∧ w.files = (writing.run w).2.files) ∧
    (isError (composing.run w).1 ∧
      AddsAlong (Layout.mk "new/..").artifactDirectory w.files (composing.run w).2.files ∧
      (composing.run w).2.files.isDirectoryAt ["new"]) ∧
    ((running.run w).1.code = 1 ∧ ∃ request, Command.Request.read arguments none = .ok request ∧
      request.Leaves w.files (running.run w).2.files) ∧
    (misreading.run w).1.code = 2 ∧ w.files = (misreading.run w).2.files := by
  dsimp only
  obtain ⟨hsave, hmissing, hpersist, happend, hemit, hartifact, hwrite, hcompose, hone, htwo⟩ :=
    failure_keeps_files
  have hunread : (Directory.read [("temp", .file [7])] "temp/schema.json").isOk = false := by
    decide +kernel
  have hrun := hone ["compose", "--root=new/..", "--commit_hash=", "--repo_name=",
    "--contributors_since=", "--whats_changed_url="] none ⟨[("temp", .file [7])], []⟩
  have hmisread := htwo ["compose"] none ⟨[("temp", .file [7])], []⟩
  refine ⟨(hsave _ _).at_failure ?_, hmissing _ _ _ _ ?_ ?_, (hpersist _ _).at_failure ?_,
    (happend _ _).at_failure ?_, (hemit _ _).at_failure ?_, hartifact _ _ _ (fun bytes r h ↦ ?_),
    (hwrite _).at_failure ?_, ⟨?_, hcompose _ _ _ ?_, ?_⟩, ⟨?_, hrun ?_⟩, ?_, hmisread ?_⟩
  case refine_7 => exact absurd (hunread.symm.trans (congrArg Except.isOk h)) Bool.false_ne_true
  all_goals decide +kernel

end Bulletin
