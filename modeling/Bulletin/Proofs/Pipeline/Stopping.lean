import Bulletin.Proofs.FileTree.Making
import Bulletin.Proofs.Pipeline.Completeness
import Bulletin.Proofs.Pipeline.Frame

namespace Bulletin

open Directory Sandbox

/-- A notice tells of something else than that the directory of the artifact is absent. -/
def Notice.FindsDirectory : Notice → Prop
  | artifactDirectoryAbsent .. => False
  | _ => True

namespace Source

variable {I : Directory → Prop} (path : String)

theorem read_reports : Reports I Notice.FindsDirectory (read path : Sandbox _) (fun _ ↦ I) := by
  refine (Reports.readFile path).bind (fun outcome ↦ ?_)
  split
  · exact .pure (fun _ h ↦ h)
  · exact .pure (fun _ h ↦ h)
  · split
    · exact .pure (fun _ h ↦ h)
    · exact (Reports.log trivial).bind (fun _ ↦ .pure (fun _ h ↦ h))

theorem readOrAbsent_reports :
    Reports I Notice.FindsDirectory (readOrAbsent path : Sandbox _) (fun _ ↦ I) := by
  refine (read_reports path).bind (fun outcome ↦ ?_)
  cases outcome with
  | ok text => exact .pure (fun _ h ↦ h)
  | error error => exact (Reports.log trivial).bind (fun _ ↦ .pure (fun _ h ↦ h))

end Source

namespace Template

variable (path directory : String)

theorem restoreDefault_reports : Reports (·.isDir directory) Notice.FindsDirectory
    (restoreDefault path : Sandbox _) (fun _ ↦ (·.isDir directory)) := by
  have hwrite : Reports (·.isDir directory) Notice.FindsDirectory
      (writeDefault path : Sandbox _) (fun _ ↦ (·.isDir directory)) :=
    .writeFile (fun d d' hw hdir ↦ (isDir_congr (isDirectoryAt_write hw) directory).trans hdir)
  refine hwrite.bind (fun outcome ↦ ?_)
  cases outcome with
  | ok _ => exact .pure (fun _ h ↦ h)
  | error error => exact .log trivial

theorem fetch_reports : Reports (·.isDir directory) Notice.FindsDirectory
    (fetch path : Sandbox _) (fun _ ↦ (·.isDir directory)) := by
  refine (Source.readOrAbsent_reports path).bind (fun text ↦ ?_)
  split
  · exact .pure (fun _ h ↦ h)
  · refine (Reports.log trivial).bind (fun _ ↦ ?_)
    exact (restoreDefault_reports path directory).bind (fun _ ↦ .pure (fun _ h ↦ h))

theorem load_reports : Reports (·.isDir directory) Notice.FindsDirectory
    (load path : Sandbox _) (fun _ ↦ (·.isDir directory)) := by
  refine (fetch_reports path directory).bind (fun text ↦ ?_)
  dsimp only
  split
  · exact (Reports.log trivial).bind (fun _ ↦ .pure (fun _ h ↦ h))
  · refine (Reports.log trivial).bind (fun _ ↦ ?_)
    exact (restoreDefault_reports path directory).bind (fun _ ↦ .pure (fun _ h ↦ h))

end Template

variable {l : Layout} {context : Context} {c : Composition} {d : Directory} {w w' : World}

theorem Layout.absentDirectory?_artifact (hready : d.isDir l.artifactDirectory) :
    Artifact.absentDirectory? d l.artifact = none := by
  have hname : Path.IsName artifactName := by decide
  have hlast : (Path.segments l.artifactDirectory).getLast? = some artifactDirectoryName :=
    Path.getLast?_segments_join _ (by decide)
  have hparent : Path.parent? l.artifact = some l.artifactDirectory :=
    Path.parent?_join hlast (by decide) hname
  have hdirectory : Artifact.directory? l.artifact = some l.artifactDirectory := by
    rw [Artifact.directory?, hparent]
    simp [l.artifactDirectory_ne_empty]
  rw [Artifact.absentDirectory?, hdirectory]
  simp [hready]

theorem Artifact.persist_reports (r : Release) : Reports (·.isDir l.artifactDirectory)
    Notice.FindsDirectory (persist r l.artifact : Sandbox _) (fun _ _ ↦ True) := by
  intro w hready
  have habsent := Layout.absentDirectory?_artifact hready
  refine ⟨trivial, ?_⟩
  cases hw : w.files.write l.artifact (encode r) with
  | error error =>
    refine ⟨[.artifactUnwritable l.artifact (.inaccessible l.artifact error)], ?_,
      List.forall_mem_singleton.mpr trivial⟩
    simp [persist, run_save_of_error habsent hw]
    rfl
  | ok files =>
    refine ⟨[.artifactWritten l.artifact], ?_, List.forall_mem_singleton.mpr trivial⟩
    simp [persist, run_save_of_ok habsent hw]
    rfl

/-- Composing never finds the directory of the artifact absent, since it creates that first. -/
theorem compose_reports (l : Layout) (context : Context) :
    Reports (fun _ ↦ True) Notice.FindsDirectory (compose l context : Sandbox _)
      (fun _ _ ↦ True) := by
  have hmake : Reports (fun _ ↦ True) Notice.FindsDirectory
      (Workspace.makeDirs l.artifactDirectory : Sandbox _) (IsMade l.artifactDirectory) :=
    .of_ensures (.makeDirsFrom (fun _ _ _ _ _ _ ↦ trivial))
      (makeDirs_ensures l.artifactDirectory_ne_empty)
  refine hmake.bind (fun outcome ↦ ?_)
  cases outcome with
  | error error => exact .pure (fun _ _ ↦ trivial)
  | ok _ =>
    -- From here on the directory is there, since no part of what follows removes anything.
    refine Reports.mono ?_ (fun d hmade ↦ hmade rfl)
    refine (Template.load_reports l.template l.artifactDirectory).bind (fun loaded ↦ ?_)
    refine (Source.readOrAbsent_reports l.readme).bind (fun readme ↦ ?_)
    refine (Source.readOrAbsent_reports l.changelog).bind (fun changelog ↦ ?_)
    have hstore (r : Release) : Reports (·.isDir l.artifactDirectory) Notice.FindsDirectory
        (do
          let isStored ← Artifact.persist r l.artifact
          return .ok ⟨r, loaded.2, isStored⟩ : Sandbox (Except ComposeError Composition))
        (fun _ _ ↦ True) :=
      (Artifact.persist_reports r).bind (fun _ ↦ .pure (fun _ _ ↦ trivial))
    dsimp only
    split
    · exact (Reports.log trivial).bind (fun _ ↦ hstore _)
    · exact hstore _

theorem isStored_composition_iff (context : Context) (hready : d.isDir l.artifactDirectory) :
    (composition l context d).1.isStored ↔
      ¬d.isDirectoryAt (Path.location l.artifact) ∧
        l.artifact.utf8ByteSize ≤ maxPathBytes := by
  have hready' : (Template.loaded d l.template).2.isDir l.artifactDirectory :=
    (isDir_congr (Template.isDirectoryAt_loaded d l.template) _).trans hready
  have hwrite (r : Release) : (∃ files, (Template.loaded d l.template).2.write l.artifact
      (Artifact.encode r) = .ok files) ↔ _ := Layout.exists_write_artifact_iff hready'
  rw [Template.isDirectoryAt_loaded] at hwrite
  rw [composition]
  dsimp only
  generalize Values.applyRelease _ _ = r
  rw [← hwrite r, Artifact.persisted, Layout.absentDirectory?_artifact hready']
  cases (Template.loaded d l.template).2.write l.artifact (Artifact.encode r) with
  | error error => simp
  | ok files => simp

theorem error_of_run_compose_iff {outcome : Except ComposeError Composition}
    (hup : ".." ∉ Path.segments l.root)
    (h : StateT.run (compose l context : Sandbox _) w = pure (outcome, w')) :
    (∃ error, outcome = .error error) ↔ ¬w.files.CanBeDirectory l.artifactDirectory := by
  have hmakes : (∃ w₁, StateT.run (Workspace.makeDirs l.artifactDirectory : Sandbox _) w =
      pure (.ok (), w₁)) ↔ _ :=
    exists_run_makeDirs_iff (l.up_not_mem_artifactDirectory hup)
      (Path.endsPlainly_join l.root (by decide)) l.artifactDirectory_ne_empty
  obtain ⟨made, w₁, hmake⟩ : ∃ made w₁,
      StateT.run (Workspace.makeDirs l.artifactDirectory : Sandbox _) w = pure (made, w₁) :=
    ⟨_, _, rfl⟩
  rw [← hmakes, hmake]
  cases made with
  | error error =>
    have hrun := (run_compose_of_error hmake).symm.trans h
    refine iff_of_true ⟨_, (congrArg Prod.fst hrun).symm⟩ ?_
    rintro ⟨w₂, hw₂⟩
    cases congrArg Prod.fst hw₂
  | ok _ =>
    obtain ⟨journal, hrun⟩ := @run_compose_of_makeDirs l context _ _ hmake
    have houtcome := congrArg Prod.fst (hrun.symm.trans h)
    refine iff_of_false ?_ (not_not.mpr ⟨w₁, rfl⟩)
    rintro ⟨error, rfl⟩
    cases houtcome

theorem isStored_of_run_compose_iff (hup : ".." ∉ Path.segments l.root)
    (h : StateT.run (compose l context : Sandbox _) w = pure (.ok c, w')) :
    c.isStored ↔ ¬w.files.isDirectoryAt (Path.location l.artifact) ∧
      l.artifact.utf8ByteSize ≤ maxPathBytes := by
  obtain ⟨w₁, hmake, hready, hcomposition⟩ := exists_of_run_compose h
  have hadds : AddsTo (Path.location l.artifactDirectory) w.files w₁.files :=
    (makeDirs_relates (l.up_not_mem_artifactDirectory hup)).of_run hmake
  have hstored := isStored_composition_iff context hready
  rw [hcomposition, isDirectoryAt_eq, Layout.entryAt?_artifact_addsTo hadds, ← isDirectoryAt_eq]
    at hstored
  exact hstored

/-- Composing stops only where there can be no directory for the artifact. Elsewhere it stores the
release, which can be loaded then, unless a directory takes the place of the artifact or the path
of that is too long. -/
theorem compose_stops_iff (l : Layout) (context : Context) (w : World)
    (hup : ".." ∉ Path.segments l.root) :
    ∃ outcome w' notices, StateT.run (compose l context : Sandbox _) w = pure (outcome, w') ∧
      w'.journal = w.journal ++ notices ∧
      (∀ path directory, .artifactDirectoryAbsent path directory ∉ notices) ∧
      ((∃ error, outcome = .error error) ↔ ¬w.files.CanBeDirectory l.artifactDirectory) ∧
      ∀ c, outcome = .ok c →
        (c.isStored ↔ ¬w.files.isDirectoryAt (Path.location l.artifact) ∧
          l.artifact.utf8ByteSize ≤ maxPathBytes) ∧
        (c.isStored → StateT.run (Artifact.load l.artifact : Sandbox _) w' =
          pure (.ok c.release, w')) := by
  obtain ⟨outcome, w', hrun⟩ : ∃ outcome w',
      StateT.run (compose l context : Sandbox _) w = pure (outcome, w') := ⟨_, _, rfl⟩
  obtain ⟨-, notices, hjournal, hallowed⟩ := (compose_reports l context).of_run trivial hrun
  refine ⟨outcome, w', notices, hrun, hjournal, ?_, error_of_run_compose_iff hup hrun, ?_⟩
  · intro path directory hmem
    exact hallowed _ hmem
  · rintro c rfl
    obtain ⟨w₁, -, -, hcomposition⟩ := exists_of_run_compose hrun
    exact ⟨isStored_of_run_compose_iff hup hrun, run_load_of_composition hcomposition⟩

theorem compose_stops_iff_unreadable :
    let context : Context := ⟨"w", "x", "y", "z"⟩
    let w : World := ⟨[("a", .directory [("compressor.settings.txt", .directory []),
      ("README.md", .file [0xff]), ("temp", .directory [])])], []⟩
    ".." ∉ Path.segments "a" ∧
      ∃ c w', StateT.run (compose ⟨"a"⟩ context : Sandbox _) w = pure (.ok c, w') ∧
        c.isStored ∧
        StateT.run (Artifact.load "a/temp/schema.json" : Sandbox _) w' =
          pure (.ok c.release, w') := by
  intro context w
  have hup : ".." ∉ Path.segments "a" := by decide
  have hready : w.files.isDir "a/temp" := by decide +kernel
  obtain ⟨outcome, w', notices, hrun, -, -, herror, hstored⟩ :=
    compose_stops_iff ⟨"a"⟩ context w hup
  cases outcome with
  | error error => exact absurd ⟨_, .refl _ _, hready⟩ (herror.mp ⟨error, rfl⟩)
  | ok c =>
    obtain ⟨hiff, hload⟩ := hstored c rfl
    have hc : c.isStored := hiff.mpr ⟨by decide +kernel, by decide⟩
    exact ⟨hup, c, w', hrun, hc, hload hc⟩

/-- Where the path of the artifact is too long, but not that of its directory, nothing is stored,
though no directory takes the place of the artifact. -/
theorem compose_stores_nothing {n : Nat} (hlong : 4080 ≤ n) (hn : n ≤ 4089) (context : Context) :
    let l : Layout := ⟨".".pushn '/' n⟩
    ".." ∉ Path.segments l.root ∧ ¬World.empty.files.isDirectoryAt (Path.location l.artifact) ∧
      ∃ c w', StateT.run (compose l context : Sandbox _) World.empty = pure (.ok c, w') ∧
        ¬c.isStored := by
  intro l
  have hup : ".." ∉ Path.segments l.root := up_not_mem_slashes n
  have hempty : ¬isDirectoryAt [] (Path.location l.artifact) := by
    rw [l.location_artifact, ← Path.foldl_follow_named, Path.named_pushn]
    decide
  have hsize : maxPathBytes < l.artifact.utf8ByteSize := by
    have hroot : l.root.utf8ByteSize = 1 + n := Path.utf8ByteSize_pushn "." n
    have hdirectory := Path.utf8ByteSize_join l.root Layout.artifactDirectoryName
    have hjoin := Path.utf8ByteSize_join l.artifactDirectory Layout.artifactName
    have hname : Layout.artifactDirectoryName.utf8ByteSize = 4 := rfl
    have hname' : Layout.artifactName.utf8ByteSize = 11 := rfl
    rw [maxPathBytes, Layout.artifact]
    rw [← Layout.artifactDirectory] at hdirectory
    omega
  have hmake : makeDir [] l.artifactDirectory = .ok [("temp", .directory [])] := makeDir_slashes hn
  obtain ⟨journal, hrun⟩ := @run_compose_of_makeDirs l context World.empty _
    (run_makeDirs_of_makeDir hmake l.artifactDirectory_ne_empty)
  refine ⟨hup, hempty, _, _, hrun, ?_⟩
  rw [isStored_composition_iff context (isDir_of_makeDir hmake)]
  exact fun h ↦ Nat.not_lt.mpr h.2 hsize

theorem compose_stores_nothing_slashes :
    let l : Layout := ⟨".".pushn '/' 4085⟩
    ".." ∉ Path.segments l.root ∧ ¬World.empty.files.isDirectoryAt (Path.location l.artifact) ∧
      ∃ c w', StateT.run (compose l ⟨"a", "b", "c", "d"⟩ : Sandbox _) World.empty =
          pure (.ok c, w') ∧
        ¬c.isStored :=
  compose_stores_nothing (by decide) (by decide) _

end Bulletin
