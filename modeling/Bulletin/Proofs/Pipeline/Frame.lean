import Bulletin.Proofs.Pipeline.Outcome

namespace Bulletin

open Directory Sandbox

/-- What composing gives and leaves, told by the tree before. -/
structure Composition.Accords (l : Layout) (context : Context) (c : Composition)
    (d d' : Directory) : Prop where
  complete : ∀ text, Template.usable (Source.text? d l.template) = some text →
    (Template.release text).isComplete →
      c.release = (l.values context d).applyRelease (Template.release text) ∧
      c.usedDefault = false ∧
      d'.entryAt? (Path.location l.template) = d.entryAt? (Path.location l.template)
  incomplete : ∀ text, Template.usable (Source.text? d l.template) = some text →
    ¬(Template.release text).isComplete →
      c.release = (l.values context d).applyRelease Template.defaultRelease ∧
      c.usedDefault = true ∧ d'.read l.template = .ok (Utf8.encode Template.default)
  unusable : Template.usable (Source.text? d l.template) = none →
    c.release = (l.values context d).applyRelease Template.defaultRelease ∧
      c.usedDefault = false ∧
      if d.isDirectoryAt (Path.location l.template) ∨ maxPathBytes < l.template.utf8ByteSize then
        d'.entryAt? (Path.location l.template) = d.entryAt? (Path.location l.template)
      else d'.read l.template = .ok (Utf8.encode Template.default)
  artifactDirectory : d'.isDirectoryAt (Path.location l.artifactDirectory)
  artifact : d'.entryAt? (Path.location l.artifact) =
    if c.isStored then some (.file (Artifact.encode c.release))
    else d.entryAt? (Path.location l.artifact)
  readme : d'.entryAt? (Path.location l.readme) = d.entryAt? (Path.location l.readme)
  changelog : d'.entryAt? (Path.location l.changelog) = d.entryAt? (Path.location l.changelog)
  others : ∀ location, location ≠ Path.location l.template → location ≠ Path.location l.artifact →
    AddsAt (Path.location l.artifactDirectory) location d d'

variable {l : Layout} {context : Context} {c : Composition} {d d' d₁ : Directory} {w w' : World}

theorem entryAt?_composition_beside (l : Layout) (context : Context) (d : Directory)
    (name : String) : (composition l context d).2.entryAt? (Path.location l.root ++ [name]) =
      (Template.loaded d l.template).2.entryAt? (Path.location l.root ++ [name]) := by
  rw [entryAt?_composition, if_neg (fun h ↦ l.beside_ne_artifact name h.2)]

theorem entryAt?_composition_template (l : Layout) (context : Context) (d : Directory) :
    (composition l context d).2.entryAt? (Path.location l.template) =
      (Template.loaded d l.template).2.entryAt? (Path.location l.template) := by
  rw [l.location_template]
  exact entryAt?_composition_beside l context d Layout.templateName

theorem read_composition_template (context : Context) (hready : d.isDir l.artifactDirectory)
    {bytes : List UInt8} (h : (Template.loaded d l.template).2.read l.template = .ok bytes) :
    (composition l context d).2.read l.template = .ok bytes := by
  have hloaded := Template.isDirectoryAt_loaded d l.template
  have hdirs := isDirectoryAt_composition l context d
  refine (Layout.read_congr ?_ ?_ (by decide) (entryAt?_composition_beside l context d _)).mpr h
  · exact (isDir_congr hloaded _).trans hready
  · exact (isDir_congr hdirs _).trans hready

theorem entryAt?_composition_of_ne {location : Location}
    (ht : location ≠ Path.location l.template) (ha : location ≠ Path.location l.artifact) :
    (composition l context d).2.entryAt? location = d.entryAt? location := by
  rw [entryAt?_composition, if_neg (fun h ↦ ha h.2), Template.entryAt?_loaded d _ ht]

theorem restored_composition (context : Context) (hready : d.isDir l.artifactDirectory)
    (hrestored : (Template.loaded d l.template).2 = Template.restored d l.template) :
    if d.isDirectoryAt (Path.location l.template) ∨ maxPathBytes < l.template.utf8ByteSize then
      (composition l context d).2.entryAt? (Path.location l.template) =
        d.entryAt? (Path.location l.template)
    else (composition l context d).2.read l.template = .ok (Utf8.encode Template.default) := by
  have hwritable : (∃ files, d.write l.template (Utf8.encode Template.default) = .ok files) ↔ _ :=
    Layout.exists_write_template_iff hready
  split
  · -- A template that cannot be written stays what it is.
    rename_i hnot
    rw [entryAt?_composition_template, hrestored]
    rcases Template.restored_cases d l.template with hw | hsame
    · have hand := hwritable.mp ⟨_, hw⟩
      exact absurd hnot (by simpa using hand)
    · rw [hsame]
  · rename_i hnot
    apply read_composition_template context hready
    rw [hrestored]
    exact Template.read_restored (hwritable.mpr (by simpa using hnot))

theorem accords_composition (context : Context) (hready : d.isDir l.artifactDirectory) :
    (composition l context d).1.Accords l context d (composition l context d).2 where
  complete text hu hcomplete := by
    have hloaded := Template.loaded_of_complete hu hcomplete
    refine ⟨?_, ?_, ?_⟩
    · rw [release_composition context hready, hloaded]
    · rw [composition, hloaded]
    · rw [entryAt?_composition_template, hloaded]
  incomplete text hu hcomplete := by
    have hloaded := Template.loaded_of_incomplete hu hcomplete
    refine ⟨?_, ?_, ?_⟩
    · rw [release_composition context hready, hloaded]
    · rw [composition, hloaded]
    · apply read_composition_template context hready
      rw [hloaded]
      exact Template.read_restored (Template.exists_write_of_usable hu _)
  unusable hu := by
    have hloaded := Template.loaded_of_unusable hu
    refine ⟨?_, ?_, ?_⟩
    · rw [release_composition context hready, hloaded]
    · rw [composition, hloaded]
    · exact restored_composition context hready (congrArg Prod.snd hloaded)
  artifactDirectory := by
    rw [isDirectoryAt_composition]
    exact Layout.isDirectoryAt_artifactDirectory hready
  artifact := by
    have hne : Path.location l.artifact ≠ Path.location l.template := by
      rw [l.location_template]
      exact (l.beside_ne_artifact _).symm
    rw [entryAt?_composition, Template.entryAt?_loaded d _ hne]
    simp only [and_true]
  readme := by
    rw [l.location_readme]
    exact entryAt?_composition_of_ne (l.beside_ne_template (by decide)) (l.beside_ne_artifact _)
  changelog := by
    rw [l.location_changelog]
    exact entryAt?_composition_of_ne (l.beside_ne_template (by decide)) (l.beside_ne_artifact _)
  others location ht ha := Or.inl (entryAt?_composition_of_ne ht ha)

/-- What is told by the tree with the directory for the artifact is told by the tree before that has
been created. -/
theorem Composition.Accords.of_addsTo (hup : ".." ∉ Path.segments l.root)
    (hready : d₁.isDir l.artifactDirectory)
    (hadds : AddsTo (Path.location l.artifactDirectory) d d₁) (h : c.Accords l context d₁ d') :
    c.Accords l context d d' := by
  have htext {name : String} (hne : name ≠ Layout.artifactDirectoryName)
      (hname : Path.IsName name) :
      Source.text? d₁ (Path.join l.root name) = Source.text? d (Path.join l.root name) :=
    Source.text?_congr (fun bytes ↦ Layout.read_addsTo hadds hne hup hready hname)
  have hvalues : l.values context d₁ = l.values context d := by
    rw [Layout.values, Layout.values, Layout.readme, Layout.changelog,
      htext (by decide) (by decide), htext (by decide) (by decide)]
  have htemplate : Source.text? d₁ l.template = Source.text? d l.template :=
    htext (by decide) (by decide)
  have hentry : d₁.entryAt? (Path.location l.template) = d.entryAt? (Path.location l.template) := by
    rw [l.location_template]
    exact Layout.entryAt?_addsTo hadds (by decide)
  obtain ⟨hcomplete, hincomplete, hunusable, hdirectory, hartifact, hreadme, hchangelog, hothers⟩ :=
    h
  rw [htemplate, hvalues, hentry] at hcomplete
  rw [htemplate, hvalues] at hincomplete
  rw [htemplate, hvalues, hentry, isDirectoryAt_eq, hentry, ← isDirectoryAt_eq] at hunusable
  rw [Layout.entryAt?_artifact_addsTo hadds] at hartifact
  refine ⟨hcomplete, hincomplete, hunusable, hdirectory, hartifact, ?_, ?_, ?_⟩
  · rw [hreadme, l.location_readme, Layout.entryAt?_addsTo hadds (by decide)]
  · rw [hchangelog, l.location_changelog, Layout.entryAt?_addsTo hadds (by decide)]
  · intro location ht ha
    exact (hadds location).trans (hothers location ht ha)

/-- What composing does to its template, and that it changes nothing else than the artifact and
its directory. -/
theorem compose_accords (hup : ".." ∉ Path.segments l.root)
    (h : StateT.run (compose l context : Sandbox _) w = pure (.ok c, w')) :
    c.Accords l context w.files w'.files := by
  obtain ⟨w₁, hmake, hready, hcomposition⟩ := exists_of_run_compose h
  have hadds : AddsTo (Path.location l.artifactDirectory) w.files w₁.files :=
    (makeDirs_relates (l.up_not_mem_artifactDirectory hup)).of_run hmake
  have haccords := accords_composition context hready
  rw [hcomposition] at haccords
  exact haccords.of_addsTo hup hready hadds

theorem compose_accords_absent :
    let w : World := ⟨[("a", .directory [("README.md", .file [0x68])])], []⟩
    ".." ∉ Path.segments "a" ∧
      ∃ c w', StateT.run (compose ⟨"a"⟩ ⟨"", "x", "", ""⟩ : Sandbox _) w = pure (.ok c, w') ∧
        c.Accords ⟨"a"⟩ ⟨"", "x", "", ""⟩ w.files w'.files := by
  intro w
  have hup : ".." ∉ Path.segments "a" := by decide
  obtain ⟨files, hmake⟩ : ∃ files, w.files.makeDir "a/temp" = .ok files := ⟨_, rfl⟩
  obtain ⟨journal, hrun⟩ := @run_compose_of_makeDirs ⟨"a"⟩ ⟨"", "x", "", ""⟩ _ _
    (run_makeDirs_of_makeDir hmake (by decide))
  exact ⟨hup, _, _, hrun, compose_accords hup hrun⟩

theorem up_not_mem_slashes (n : Nat) : ".." ∉ Path.segments (".".pushn '/' n) := by
  rw [Path.segments_pushn, show Path.segments "." = ["."] by decide]
  simp [List.mem_replicate]

theorem makeDir_slashes {n : Nat} (hn : n ≤ 4089) :
    makeDir [] (Layout.mk (".".pushn '/' n)).artifactDirectory =
      .ok [("temp", .directory [])] := by
  have hname : Path.IsName Layout.artifactDirectoryName := by decide
  have hnamed : Path.named (".".pushn '/' n) = ["."] := by
    rw [Path.named_pushn]
    decide
  have hsound : Path.IsSound (Path.join (".".pushn '/' n) Layout.artifactDirectoryName) := by
    have hsize : (".".pushn '/' n).utf8ByteSize = 1 + n := Path.utf8ByteSize_pushn "." n
    have hjoin := Path.utf8ByteSize_join (".".pushn '/' n) Layout.artifactDirectoryName
    have htemp : Layout.artifactDirectoryName.utf8ByteSize = 4 := rfl
    rw [Path.isSound_join_iff hname, Path.nul_mem_pushn, maxPathBytes]
    exact ⟨by decide, by decide, by omega⟩
  rw [makeDir, Layout.artifactDirectory, locate_join hname hsound, hnamed]
  rfl

/-- Where the path of the template is too long, but not that of the directory for the artifact, no
template is written. -/
theorem compose_slashes {n : Nat} (hlong : 4072 ≤ n) (hn : n ≤ 4089) (context : Context) :
    let l : Layout := ⟨".".pushn '/' n⟩
    ".." ∉ Path.segments l.root ∧
      ∃ c w', StateT.run (compose l context : Sandbox _) World.empty = pure (.ok c, w') ∧
        Source.text? World.empty.files l.template = none ∧
        w'.files.entryAt? (Path.location l.template) = none := by
  intro l
  have hup : ".." ∉ Path.segments l.root := up_not_mem_slashes n
  have habsent : entryAt? [("temp", .directory [])] (Path.location l.template) = none := by
    rw [l.location_template, ← Path.foldl_follow_named, Path.named_pushn]
    decide
  have hsize : maxPathBytes < l.template.utf8ByteSize := by
    have hroot : l.root.utf8ByteSize = 1 + n := Path.utf8ByteSize_pushn "." n
    have hjoin := Path.utf8ByteSize_join l.root Layout.templateName
    have hname : Layout.templateName.utf8ByteSize = 23 := rfl
    rw [maxPathBytes, Layout.template]
    omega
  have htext (d : Directory) : Source.text? d l.template = none := by
    obtain ⟨error, hl⟩ := exists_locate_of_not_isSound (fun hs ↦ Nat.not_le.mpr hsize hs.2.2)
    rw [Source.text?, Directory.read, hl]
    rfl
  have hmake : makeDir [] l.artifactDirectory = .ok [("temp", .directory [])] := makeDir_slashes hn
  obtain ⟨journal, hrun⟩ := @run_compose_of_makeDirs l context World.empty _
    (run_makeDirs_of_makeDir hmake l.artifactDirectory_ne_empty)
  have hunusable := (accords_composition context (isDir_of_makeDir hmake)).unusable
    (by rw [htext]; rfl)
  rw [if_pos (Or.inr hsize)] at hunusable
  dsimp only at hrun
  generalize composition l context [("temp", .directory [])] = done at hrun hunusable
  exact ⟨hup, _, _, hrun, htext [], hunusable.2.2.trans habsent⟩

theorem compose_leaves_template_absent :
    let l : Layout := ⟨".".pushn '/' 4075⟩
    ".." ∉ Path.segments l.root ∧
      ∃ c w', StateT.run (compose l ⟨"a", "b", "c", "d"⟩ : Sandbox _) World.empty =
          pure (.ok c, w') ∧
        Source.text? World.empty.files l.template = none ∧
        w'.files.entryAt? (Path.location l.template) = none :=
  compose_slashes (by decide) (by decide) _

end Bulletin
