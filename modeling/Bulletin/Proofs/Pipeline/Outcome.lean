import Bulletin.Proofs.Artifact.Store
import Bulletin.Proofs.Layout
import Bulletin.Proofs.Template.Default

namespace Bulletin

open Sandbox

namespace Source

def textOf (bytes : List UInt8) : String :=
  (Utf8.decode? bytes).getD (Utf8.latin1 bytes)

def text? (d : Directory) (path : String) : Option String :=
  (d.read path).toOption.map textOf

theorem text?_eq_some {d : Directory} {path : String} {bytes : List UInt8}
    (h : d.read path = .ok bytes) : text? d path = some (textOf bytes) := by
  rw [text?, h]
  rfl

theorem text?_congr {d d' : Directory} {path : String}
    (h : ∀ bytes, d'.read path = .ok bytes ↔ d.read path = .ok bytes) :
    text? d' path = text? d path := by
  rw [text?, text?]
  cases hr : d.read path with
  | ok bytes => rw [(h bytes).mpr hr]
  | error error =>
    cases hr' : d'.read path with
    | ok bytes => cases hr.symm.trans ((h bytes).mp hr')
    | error error' => rfl

theorem textOf_encode (text : String) : textOf (Utf8.encode text) = text := by
  rw [textOf, Utf8.decode?_encode, Option.getD_some]

theorem text?_of_write {d d' : Directory} {path text : String}
    (h : d.write path (Utf8.encode text) = .ok d') : text? d' path = some text := by
  rw [text?_eq_some (Directory.read_write h), textOf_encode]

theorem run_readOrAbsent (path : String) (w : World) :
    ∃ journal, StateT.run (readOrAbsent path : Sandbox _) w =
      pure (text? w.files path, ⟨w.files, journal⟩) := by
  rw [text?]
  cases hr : w.files.read path with
  | error error => cases error <;> exact ⟨_, by simp [readOrAbsent, read, hr]; rfl⟩
  | ok bytes =>
    cases hd : Utf8.decode? bytes <;>
      exact ⟨_, by simp [readOrAbsent, read, hr, hd, textOf, Except.toOption]; rfl⟩

end Source

namespace Template

def restored (d : Directory) (path : String) : Directory :=
  (d.write path (Utf8.encode default)).toOption.getD d

/-- What is loaded from a template, and the tree after that. -/
def loaded (d : Directory) (path : String) : (Release × Bool) × Directory :=
  match usable (Source.text? d path) with
  | none => ((defaultRelease, false), restored d path)
  | some text =>
    if (release text).isComplete then ((release text, false), d)
    else ((defaultRelease, true), restored d path)

variable {d d' : Directory} {path text : String}

theorem loaded_of_unusable (h : usable (Source.text? d path) = none) :
    loaded d path = ((defaultRelease, false), restored d path) := by
  rw [loaded, h]

theorem loaded_of_complete (h : usable (Source.text? d path) = some text)
    (hcomplete : (release text).isComplete) : loaded d path = ((release text, false), d) := by
  rw [loaded, h]
  exact if_pos hcomplete

theorem loaded_of_incomplete (h : usable (Source.text? d path) = some text)
    (hcomplete : ¬(release text).isComplete) :
    loaded d path = ((defaultRelease, true), restored d path) := by
  rw [loaded, h]
  exact if_neg hcomplete

theorem restored_of_ok (h : d.write path (Utf8.encode default) = .ok d') :
    restored d path = d' := by
  rw [restored, h]
  rfl

theorem restored_of_error {error : FileError}
    (h : d.write path (Utf8.encode default) = .error error) : restored d path = d := by
  rw [restored, h]
  rfl

theorem exists_write_of_usable (hu : usable (Source.text? d path) = some text)
    (bytes : List UInt8) : ∃ d', d.write path bytes = .ok d' := by
  cases hr : d.read path with
  | ok old => exact Directory.exists_write_of_read hr bytes
  | error error =>
    rw [Source.text?, hr] at hu
    cases hu

theorem read_restored (h : ∃ d', d.write path (Utf8.encode default) = .ok d') :
    (restored d path).read path = .ok (Utf8.encode default) := by
  obtain ⟨d', hw⟩ := h
  rw [restored_of_ok hw]
  exact Directory.read_write hw

theorem restored_cases (d : Directory) (path : String) :
    d.write path (Utf8.encode default) = .ok (restored d path) ∨ restored d path = d := by
  cases hw : d.write path (Utf8.encode default) with
  | ok files => exact Or.inl (by rw [restored_of_ok hw])
  | error error => exact Or.inr (restored_of_error hw)

theorem loaded_cases (d : Directory) (path : String) :
    d.write path (Utf8.encode default) = .ok (loaded d path).2 ∨ (loaded d path).2 = d := by
  have hrestored := restored_cases d path
  cases hu : usable (Source.text? d path) with
  | none => rwa [loaded_of_unusable hu]
  | some text =>
    by_cases hcomplete : (release text).isComplete
    · exact Or.inr (by rw [loaded_of_complete hu hcomplete])
    · rwa [loaded_of_incomplete hu hcomplete]

theorem entryAt?_loaded (d : Directory) (path : String) {location : Location}
    (h : location ≠ Path.location path) :
    (loaded d path).2.entryAt? location = d.entryAt? location := by
  rcases loaded_cases d path with hw | hsame
  · rw [Directory.entryAt?_write hw, if_neg h]
  · rw [hsame]

theorem isDirectoryAt_loaded (d : Directory) (path : String) (location : Location) :
    (loaded d path).2.isDirectoryAt location = d.isDirectoryAt location := by
  rcases loaded_cases d path with hw | hsame
  · exact Directory.isDirectoryAt_write hw location
  · rw [hsame]

theorem run_restoreDefault (path : String) (w : World) :
    ∃ journal, StateT.run (restoreDefault path : Sandbox _) w =
      pure ((), ⟨restored w.files path, journal⟩) := by
  cases hw : w.files.write path (Utf8.encode default) with
  | error error =>
    rw [restored_of_error hw]
    exact ⟨_, by simp [restoreDefault, writeDefault, run_writeFile_of_error hw]; rfl⟩
  | ok files =>
    rw [restored_of_ok hw]
    exact ⟨_, by simp [restoreDefault, writeDefault, run_writeFile_of_ok hw]; rfl⟩

theorem run_load (path : String) (w : World) :
    ∃ journal, StateT.run (load path : Sandbox _) w =
      pure ((loaded w.files path).1, ⟨(loaded w.files path).2, journal⟩) := by
  obtain ⟨journal, hread⟩ := Source.run_readOrAbsent path w
  cases hu : usable (Source.text? w.files path) with
  | none =>
    obtain ⟨journal, hrestore⟩ :=
      run_restoreDefault path ⟨w.files, journal ++ [.templateAbsent path]⟩
    have hcomplete : (release default).isComplete := isComplete_defaultRelease
    refine ⟨journal ++ [.templateParsed (release default).title (release default).tag], ?_⟩
    rw [loaded_of_unusable hu]
    simp [load, fetch, hread, hu, hrestore, hcomplete, defaultRelease]
  | some text =>
    by_cases hcomplete : (release text).isComplete
    · refine ⟨journal ++ [.templateParsed (release text).title (release text).tag], ?_⟩
      rw [loaded_of_complete hu hcomplete]
      simp [load, fetch, hread, hu, hcomplete]
    · obtain ⟨journal, hrestore⟩ :=
        run_restoreDefault path ⟨w.files, journal ++ [.templateUnusable]⟩
      refine ⟨journal, ?_⟩
      rw [loaded_of_incomplete hu hcomplete]
      simp [load, fetch, hread, hu, hcomplete, hrestore]

end Template

namespace Artifact

def persisted (r : Release) (d : Directory) (path : String) : Bool × Directory :=
  match absentDirectory? d path, d.write path (encode r) with
  | none, .ok d' => (true, d')
  | _, _ => (false, d)

theorem persisted_cases (r : Release) (d : Directory) (path : String) :
    (persisted r d path).1 = true ∧ d.write path (encode r) = .ok (persisted r d path).2 ∨
      persisted r d path = (false, d) := by
  unfold persisted
  split
  · exact Or.inl ⟨rfl, ‹_›⟩
  · exact Or.inr rfl

theorem isDirectoryAt_persisted (r : Release) (d : Directory) (path : String)
    (location : Location) :
    (persisted r d path).2.isDirectoryAt location = d.isDirectoryAt location := by
  rcases persisted_cases r d path with ⟨-, hw⟩ | hsame
  · exact Directory.isDirectoryAt_write hw location
  · rw [hsame]

theorem entryAt?_persisted (r : Release) (d : Directory) (path : String) (location : Location) :
    (persisted r d path).2.entryAt? location =
      if (persisted r d path).1 ∧ location = Path.location path then some (.file (encode r))
      else d.entryAt? location := by
  rcases persisted_cases r d path with ⟨hstored, hw⟩ | hsame
  · rw [Directory.entryAt?_write hw, hstored]
    simp
  · rw [hsame]
    simp

theorem run_persist (r : Release) (path : String) (w : World) :
    ∃ journal, StateT.run (persist r path : Sandbox _) w =
      pure ((persisted r w.files path).1, ⟨(persisted r w.files path).2, journal⟩) := by
  rw [persisted]
  cases ha : absentDirectory? w.files path with
  | some directory => exact ⟨_, by simp [persist, run_save_of_absent ha]; rfl⟩
  | none =>
    cases hw : w.files.write path (encode r) with
    | error error => exact ⟨_, by simp [persist, run_save_of_error ha hw]; rfl⟩
    | ok files => exact ⟨_, by simp [persist, run_save_of_ok ha hw]; rfl⟩

end Artifact

def Layout.values (l : Layout) (context : Context) (d : Directory) : Values where
  context := context
  readme := Source.text? d l.readme
  changelog := Source.text? d l.changelog

theorem Layout.values_congr {l : Layout} {d d' : Directory} {context : Context}
    (hready : d.isDir l.artifactDirectory)
    (hready' : d'.isDir l.artifactDirectory)
    (he : ∀ name ≠ templateName, d'.entryAt? (Path.location l.root ++ [name]) =
      d.entryAt? (Path.location l.root ++ [name])) :
    l.values context d' = l.values context d := by
  have hreadme : Source.text? d' l.readme = Source.text? d l.readme :=
    Source.text?_congr (fun bytes ↦ read_congr hready hready' (by decide) (he _ (by decide)))
  have hchangelog : Source.text? d' l.changelog = Source.text? d l.changelog :=
    Source.text?_congr (fun bytes ↦ read_congr hready hready' (by decide) (he _ (by decide)))
  rw [values, values, hreadme, hchangelog]

example (context : Context) :
    Layout.current.values context [("README.md", .file (Utf8.encode "read")),
      ("CHANGELOG.md", .file (Utf8.encode "log"))] = ⟨context, some "read", some "log"⟩ := by
  rfl

/-- The composition in a tree that has the directory for it, and the tree after that. -/
def composition (l : Layout) (context : Context) (d : Directory) : Composition × Directory :=
  let loaded := Template.loaded d l.template
  let release := (l.values context loaded.2).applyRelease loaded.1.1
  let persisted := Artifact.persisted release loaded.2 l.artifact
  (⟨release, loaded.1.2, persisted.1⟩, persisted.2)

variable {l : Layout} {context : Context} {c : Composition} {w w' w₁ : World}

theorem composition_eq {d d' d'' : Directory} {template : Release} {usedDefault isStored : Bool}
    (hload : Template.loaded d l.template = ((template, usedDefault), d'))
    (hpersist : Artifact.persisted ((l.values context d').applyRelease template) d' l.artifact =
      (isStored, d'')) :
    composition l context d =
      (⟨(l.values context d').applyRelease template, usedDefault, isStored⟩, d'') := by
  rw [composition, hload, hpersist]

theorem isDirectoryAt_composition (l : Layout) (context : Context) (d : Directory)
    (location : Location) :
    (composition l context d).2.isDirectoryAt location = d.isDirectoryAt location := by
  rw [composition, Artifact.isDirectoryAt_persisted, Template.isDirectoryAt_loaded]

theorem release_composition {d : Directory} (context : Context)
    (hready : d.isDir l.artifactDirectory) :
    (composition l context d).1.release =
      (l.values context d).applyRelease (Template.loaded d l.template).1.1 := by
  have hready' : (Template.loaded d l.template).2.isDir l.artifactDirectory :=
    (Directory.isDir_congr (Template.isDirectoryAt_loaded d l.template) _).trans hready
  have hvalues : l.values context (Template.loaded d l.template).2 = l.values context d := by
    refine Layout.values_congr hready hready' (fun name hne ↦ ?_)
    exact Template.entryAt?_loaded d l.template (l.beside_ne_template hne)
  rw [composition, hvalues]

/-- A composition changes nothing else than its template and the artifact, which it stores. -/
theorem entryAt?_composition (l : Layout) (context : Context) (d : Directory)
    (location : Location) :
    (composition l context d).2.entryAt? location =
      if (composition l context d).1.isStored ∧ location = Path.location l.artifact then
        some (.file (Artifact.encode (composition l context d).1.release))
      else (Template.loaded d l.template).2.entryAt? location := by
  rw [composition, Artifact.entryAt?_persisted]

theorem run_compose_of_makeDirs
    (h : StateT.run (Workspace.makeDirs l.artifactDirectory : Sandbox _) w = pure (.ok (), w₁)) :
    ∃ journal, StateT.run (compose l context : Sandbox _) w =
      pure (.ok (composition l context w₁.files).1,
        ⟨(composition l context w₁.files).2, journal⟩) := by
  rw [composition]
  simp only [Layout.values]
  obtain ⟨journal, hload⟩ := Template.run_load l.template w₁
  generalize Template.loaded w₁.files l.template = loaded at hload
  obtain ⟨⟨template, usedDefault⟩, d⟩ := loaded
  obtain ⟨journal, hreadme⟩ := Source.run_readOrAbsent l.readme ⟨d, journal⟩
  obtain ⟨journal, hchangelog⟩ := Source.run_readOrAbsent l.changelog ⟨d, journal⟩
  dsimp only at hload hreadme hchangelog ⊢
  generalize Source.text? d l.readme = readme at hreadme
  generalize Source.text? d l.changelog = changelog at hchangelog
  generalize hr : Values.applyRelease { context, readme, changelog } template = r
  by_cases habsent : readme = none ∨ changelog = none
  · obtain ⟨journal, hpersist⟩ :=
      Artifact.run_persist r l.artifact ⟨d, journal ++ [.companionAbsent]⟩
    refine ⟨journal, ?_⟩
    simp [compose, h, hload, hreadme, hchangelog, habsent, hr, hpersist]
  · obtain ⟨journal, hpersist⟩ := Artifact.run_persist r l.artifact ⟨d, journal⟩
    refine ⟨journal, ?_⟩
    simp [compose, h, hload, hreadme, hchangelog, habsent, hr, hpersist]

theorem run_compose_of_error {error : FileError}
    (h : StateT.run (Workspace.makeDirs l.artifactDirectory : Sandbox _) w =
      pure (.error error, w₁)) :
    StateT.run (compose l context : Sandbox _) w =
      pure (.error (.noDirectory l.artifactDirectory error), w₁) := by
  simp [compose, h]

/-- A composition has created its directory, and what it gives and leaves is told by the tree with
that. -/
theorem exists_of_run_compose
    (h : StateT.run (compose l context : Sandbox _) w = pure (.ok c, w')) :
    ∃ w₁, StateT.run (Workspace.makeDirs l.artifactDirectory : Sandbox _) w = pure (.ok (), w₁) ∧
      w₁.files.isDir l.artifactDirectory ∧ composition l context w₁.files = (c, w'.files) := by
  obtain ⟨outcome, w₁, hmake⟩ : ∃ outcome w₁,
      StateT.run (Workspace.makeDirs l.artifactDirectory : Sandbox _) w = pure (outcome, w₁) :=
    ⟨_, _, rfl⟩
  cases outcome with
  | error error =>
    cases congrArg Prod.fst ((run_compose_of_error hmake).symm.trans h)
  | ok made =>
    obtain ⟨journal, hrun⟩ := @run_compose_of_makeDirs l context _ _ hmake
    have hready := (makeDirs_ensures l.artifactDirectory_ne_empty).of_run hmake
    have hsame := hrun.symm.trans h
    refine ⟨w₁, hmake, hready rfl, Prod.ext ?_ ?_⟩
    · exact Except.ok.inj (congrArg Prod.fst hsame)
    · exact congrArg (fun p ↦ p.2.files) hsame

end Bulletin
