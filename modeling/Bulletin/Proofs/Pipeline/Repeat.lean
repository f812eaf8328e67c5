import Bulletin.Proofs.Pipeline.Outcome

namespace Bulletin

open Directory Sandbox

variable {l : Layout} {context : Context} {c : Composition} {d d' : Directory}
  {r template : Release} {path name : String} {usedDefault isStored : Bool} {w w' : World}

namespace Template

theorem loaded_of_write (h : d.write path (Utf8.encode default) = .ok d') :
    loaded d' path = ((defaultRelease, false), d') := by
  have hu : usable (Source.text? d' path) = some default := by
    rw [Source.text?_of_write h, usable_default]
  exact loaded_of_complete hu isComplete_defaultRelease

theorem loaded_loaded (d : Directory) (path : String) :
    loaded (loaded d path).2 path = (((loaded d path).1.1, false), (loaded d path).2) := by
  cases hu : usable (Source.text? d path) with
  | none =>
    have hloaded := loaded_of_unusable hu
    rw [hloaded]
    cases hw : d.write path (Utf8.encode default) with
    | ok files =>
      rw [restored_of_ok hw]
      exact loaded_of_write hw
    | error error =>
      rw [restored_of_error hw] at hloaded ⊢
      exact hloaded
  | some text =>
    by_cases hcomplete : (release text).isComplete
    · have hloaded := loaded_of_complete hu hcomplete
      rw [hloaded]
      exact hloaded
    · obtain ⟨files, hw⟩ := exists_write_of_usable hu (Utf8.encode default)
      rw [loaded_of_incomplete hu hcomplete, restored_of_ok hw]
      exact loaded_of_write hw

theorem restored_congr (hready : d.isDir l.artifactDirectory)
    (hdirs : ∀ location, d'.isDirectoryAt location = d.isDirectoryAt location)
    (h : ∀ files, d.write l.template (Utf8.encode default) ≠ .ok files) :
    restored d' l.template = d' := by
  have hready' : d'.isDir l.artifactDirectory := (isDir_congr hdirs _).trans hready
  cases hw : d'.write l.template (Utf8.encode default) with
  | error error => exact restored_of_error hw
  | ok files =>
    have hwritable' := (Layout.exists_write_template_iff hready').mp ⟨files, hw⟩
    rw [hdirs] at hwritable'
    obtain ⟨files, hw⟩ := (Layout.exists_write_template_iff hready).mpr hwritable'
    exact absurd hw (h files)

/-- A template that loads without a change does so in any tree with the same directories that has
the same in its place. -/
theorem loaded_congr (hready : d.isDir l.artifactDirectory)
    (hdirs : ∀ location, d'.isDirectoryAt location = d.isDirectoryAt location)
    (he : d'.entryAt? (Path.location l.root ++ [Layout.templateName]) =
      d.entryAt? (Path.location l.root ++ [Layout.templateName]))
    (h : loaded d l.template = ((r, false), d)) :
    loaded d' l.template = ((r, false), d') := by
  have hready' : d'.isDir l.artifactDirectory := (isDir_congr hdirs _).trans hready
  have hname : Path.IsName Layout.templateName := by decide
  have htext : Source.text? d' l.template = Source.text? d l.template :=
    Source.text?_congr (fun bytes ↦ Layout.read_congr hready hready' hname he)
  have hu' : usable (Source.text? d' l.template) = usable (Source.text? d l.template) := by
    rw [htext]
  cases hu : usable (Source.text? d l.template) with
  | none =>
    rw [hu] at hu'
    rw [loaded_of_unusable hu, Prod.mk.injEq, Prod.mk.injEq] at h
    obtain ⟨⟨rfl, -⟩, hrestored⟩ := h
    rw [loaded_of_unusable hu', restored_congr hready hdirs]
    intro files hw
    -- A default template that had been written would have been there to be read.
    rw [restored_of_ok hw] at hrestored
    subst hrestored
    rw [Source.text?_of_write hw, usable_default] at hu
    cases hu
  | some text =>
    rw [hu] at hu'
    by_cases hcomplete : (release text).isComplete
    · rw [loaded_of_complete hu hcomplete, Prod.mk.injEq, Prod.mk.injEq] at h
      rw [loaded_of_complete hu' hcomplete, h.1.1]
    · rw [loaded_of_incomplete hu hcomplete, Prod.mk.injEq, Prod.mk.injEq] at h
      exact absurd h.1.2.symm Bool.false_ne_true

end Template

namespace Artifact

theorem persisted_persisted (h : persisted r d path = (isStored, d')) :
    persisted r d' path = (isStored, d') := by
  have hagain := h
  unfold persisted at h
  split at h
  · rename_i files ha hw
    cases h
    have ha' : absentDirectory? d' path = none := by
      rw [absentDirectory?] at ha ⊢
      simp only [isDir_congr (isDirectoryAt_write hw), ha]
    rw [persisted, ha', write_write hw, hw]
  · cases h
    exact hagain

end Artifact

theorem composition_composition (hready : d.isDir l.artifactDirectory)
    (h : composition l context d = (c, d')) :
    composition l context d' = (⟨c.release, false, c.isStored⟩, d') := by
  obtain ⟨⟨⟨template, usedDefault⟩, d₁⟩, hload⟩ : ∃ loaded, Template.loaded d l.template = loaded :=
    ⟨_, rfl⟩
  obtain ⟨r, hr⟩ : ∃ r, (l.values context d₁).applyRelease template = r := ⟨_, rfl⟩
  obtain ⟨⟨isStored, d₂⟩, hpersist⟩ : ∃ persisted, Artifact.persisted r d₁ l.artifact = persisted :=
    ⟨_, rfl⟩
  rw [composition_eq hload (hr ▸ hpersist), hr, Prod.mk.injEq] at h
  obtain ⟨rfl, rfl⟩ := h
  have hdirs₁ (location : Location) : d₁.isDirectoryAt location = d.isDirectoryAt location := by
    simpa only [hload] using Template.isDirectoryAt_loaded d l.template location
  have hdirs₂ (location : Location) : d₂.isDirectoryAt location = d₁.isDirectoryAt location := by
    simpa only [hpersist] using Artifact.isDirectoryAt_persisted r d₁ l.artifact location
  have hready₁ : d₁.isDir l.artifactDirectory := (isDir_congr hdirs₁ _).trans hready
  have hready₂ : d₂.isDir l.artifactDirectory := (isDir_congr hdirs₂ _).trans hready₁
  have hsame (name : String) : d₂.entryAt? (Path.location l.root ++ [name]) =
      d₁.entryAt? (Path.location l.root ++ [name]) := by
    have he := Artifact.entryAt?_persisted r d₁ l.artifact (Path.location l.root ++ [name])
    rw [if_neg (fun hand ↦ l.beside_ne_artifact name hand.2), hpersist] at he
    exact he
  -- The template is settled before the artifact is stored, and that is not among what is read.
  have hagain : Template.loaded d₁ l.template = ((template, false), d₁) := by
    simpa only [hload] using Template.loaded_loaded d l.template
  have hload₂ : Template.loaded d₂ l.template = ((template, false), d₂) :=
    Template.loaded_congr hready₁ hdirs₂ (hsame _) hagain
  have hvalues : l.values context d₂ = l.values context d₁ :=
    Layout.values_congr hready₁ hready₂ (fun name _ ↦ hsame name)
  have hpersist₂ : Artifact.persisted ((l.values context d₂).applyRelease template) d₂ l.artifact =
      (isStored, d₂) := by
    rw [hvalues, hr]
    exact Artifact.persisted_persisted hpersist
  rw [composition_eq hload₂ hpersist₂, hvalues, hr]

/-- Composing once more gives the same release, stored or not as before, from a template that
serves as it is, and changes nothing. -/
theorem compose_idempotent
    (h : StateT.run (compose l context : Sandbox _) w = pure (.ok c, w')) :
    ∃ journal, StateT.run (compose l context : Sandbox _) w' =
      pure (.ok ⟨c.release, false, c.isStored⟩, ⟨w'.files, journal⟩) := by
  obtain ⟨w₁, hmake, hready, hcomposition⟩ := exists_of_run_compose h
  have hready' : w'.files.isDir l.artifactDirectory := by
    have hdirs := isDirectoryAt_composition l context w₁.files
    rw [hcomposition] at hdirs
    exact (isDir_congr hdirs _).trans hready
  have hmake' := run_makeDirs_of_isDir hready' l.artifactDirectory_ne_empty
  obtain ⟨journal, hrun⟩ := @run_compose_of_makeDirs l context _ _ hmake'
  rw [composition_composition hready hcomposition] at hrun
  exact ⟨journal, hrun⟩

theorem compose_idempotent_incomplete :
    let w : World := ⟨[("compressor.settings.txt", .file (Utf8.encode "TITLE: a//ASYNC_END")),
      ("README.md", .file [0xFF]), ("CHANGELOG.md", .directory [])], []⟩
    ∃ c w', StateT.run (compose ⟨""⟩ ⟨"", "x", "", ""⟩ : Sandbox _) w = pure (.ok c, w') ∧
      c.usedDefault ∧ c.isStored ∧
      ∃ journal, StateT.run (compose ⟨""⟩ ⟨"", "x", "", ""⟩ : Sandbox _) w' =
        pure (.ok ⟨c.release, false, c.isStored⟩, ⟨w'.files, journal⟩) := by
  intro w
  obtain ⟨files, hmake⟩ : ∃ files, w.files.makeDir "temp" = .ok files := ⟨_, rfl⟩
  obtain ⟨journal, hrun⟩ := @run_compose_of_makeDirs ⟨""⟩ ⟨"", "x", "", ""⟩ _ _
    (run_makeDirs_of_makeDir hmake (by decide))
  refine ⟨_, _, hrun, ?_, ?_, compose_idempotent hrun⟩
  · cases hmake
    decide +kernel
  · cases hmake
    decide +kernel

end Bulletin
