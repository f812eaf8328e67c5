import Bulletin.Layout
import Bulletin.Proofs.FileTree.Creation

namespace Bulletin.Layout

open Directory

variable {l : Layout} {d d' : Directory} {name : String} {bytes : List UInt8}

theorem artifactDirectory_ne_empty (l : Layout) : l.artifactDirectory ≠ "" :=
  Path.join_ne_empty l.root (by decide)

theorem up_not_mem_artifactDirectory (l : Layout) (hup : ".." ∉ Path.segments l.root) :
    ".." ∉ Path.segments l.artifactDirectory :=
  Path.up_not_mem_segments_join hup (by decide)

theorem location_artifactDirectory (l : Layout) :
    Path.location l.artifactDirectory = Path.location l.root ++ [artifactDirectoryName] :=
  Path.location_join _ (by decide)

theorem location_artifact (l : Layout) :
    Path.location l.artifact = Path.location l.root ++ [artifactDirectoryName, artifactName] := by
  rw [artifact, Path.location_join _ (by decide), location_artifactDirectory, List.append_assoc]
  rfl

theorem location_template (l : Layout) :
    Path.location l.template = Path.location l.root ++ [templateName] :=
  Path.location_join _ (by decide)

theorem location_readme (l : Layout) :
    Path.location l.readme = Path.location l.root ++ [readmeName] :=
  Path.location_join _ (by decide)

theorem location_changelog (l : Layout) :
    Path.location l.changelog = Path.location l.root ++ [changelogName] :=
  Path.location_join _ (by decide)

example : let l := Layout.mk "a"
    (l.template, l.readme, l.changelog, l.artifactDirectory, l.artifact) =
      ("a/compressor.settings.txt", "a/README.md", "a/CHANGELOG.md", "a/temp",
        "a/temp/schema.json") := by
  decide

theorem beside_ne_template (l : Layout) (hne : name ≠ templateName) :
    Path.location l.root ++ [name] ≠ Path.location l.template := by
  rw [location_template]
  simpa using hne

theorem beside_ne_artifact (l : Layout) (name : String) :
    Path.location l.root ++ [name] ≠ Path.location l.artifact := by
  rw [location_artifact]
  simp

section

variable (hready : d.isDir l.artifactDirectory)
include hready

theorem walk_root : d.walk [] (Path.named l.root) = .ok (Path.location l.root) :=
  (walk_of_isDir_join (by decide) hready).1

theorem isDirectoryAt_artifactDirectory : d.isDirectoryAt (Path.location l.artifactDirectory) := by
  rw [location_artifactDirectory]
  exact (walk_of_isDir_join (by decide) hready).2

theorem read_congr (hready' : d'.isDir l.artifactDirectory) (hname : Path.IsName name)
    (he : d'.entryAt? (Path.location l.root ++ [name]) =
      d.entryAt? (Path.location l.root ++ [name])) :
    d'.read (Path.join l.root name) = .ok bytes ↔ d.read (Path.join l.root name) = .ok bytes := by
  rw [read_join_iff (l.walk_root hready) hname, read_join_iff (l.walk_root hready') hname, he]

theorem exists_write_template_iff : (∃ files, d.write l.template bytes = .ok files) ↔
    ¬d.isDirectoryAt (Path.location l.template) ∧ l.template.utf8ByteSize ≤ maxPathBytes := by
  have hname : Path.IsName templateName := by decide
  have hlong : ¬isTooLong templateName := by decide
  have hsound : Path.IsSound l.template ↔ l.template.utf8ByteSize ≤ maxPathBytes :=
    Path.IsSound.beside (isSound_of_isDir hready) hname (by decide)
  rw [← hsound, location_template, template, exists_write_join_iff (l.walk_root hready) hname,
    and_iff_right hlong, and_comm]

theorem walk_artifactDirectory : d.walk [] (Path.named l.artifactDirectory) =
    .ok (Path.location l.artifactDirectory) := by
  have hname : Path.IsName artifactDirectoryName := by decide
  have hdir := l.isDirectoryAt_artifactDirectory hready
  rw [location_artifactDirectory] at hdir ⊢
  rw [artifactDirectory, Path.named_join _ hname, walk_append, l.walk_root hready]
  exact (walk_singleton hname.2.1 hname.2.2).mpr ⟨by decide, hdir, rfl⟩

theorem exists_write_artifact_iff : (∃ files, d.write l.artifact bytes = .ok files) ↔
    ¬d.isDirectoryAt (Path.location l.artifact) ∧ l.artifact.utf8ByteSize ≤ maxPathBytes := by
  have hname : Path.IsName artifactName := by decide
  have hlong : ¬isTooLong artifactName := by decide
  have hsound : Path.IsSound l.artifact ↔ l.artifact.utf8ByteSize ≤ maxPathBytes := by
    rw [artifact, Path.isSound_join_iff hname]
    exact ⟨fun hs ↦ hs.2.2, fun hsize ↦ ⟨(isSound_of_isDir hready).1, by decide, hsize⟩⟩
  rw [← hsound, artifact, Path.location_join _ hname,
    exists_write_join_iff (l.walk_artifactDirectory hready) hname, and_iff_right hlong, and_comm]

end

theorem entryAt?_artifact_addsTo (hadds : AddsTo (Path.location l.artifactDirectory) d d') :
    d'.entryAt? (Path.location l.artifact) = d.entryAt? (Path.location l.artifact) := by
  rcases hadds (Path.location l.artifact) with he | ⟨hon, -, -⟩
  · exact he
  · rw [location_artifact, location_artifactDirectory, List.prefix_append_right_inj] at hon
    exact absurd hon.length_le (by decide)

section

variable (hadds : AddsTo (Path.location l.artifactDirectory) d d')
  (hne : name ≠ artifactDirectoryName)
include hadds hne

theorem entryAt?_addsTo : d'.entryAt? (Path.location l.root ++ [name]) =
    d.entryAt? (Path.location l.root ++ [name]) := by
  rcases hadds (Path.location l.root ++ [name]) with he | ⟨hon, -, -⟩
  · exact he
  · rw [location_artifactDirectory, List.prefix_append_right_inj, List.cons_prefix_cons] at hon
    exact absurd hon.1 hne

/-- A file beside the directory for artifacts is read as before that was created. -/
theorem read_addsTo (hup : ".." ∉ Path.segments l.root) (hready : d'.isDir l.artifactDirectory)
    (hname : Path.IsName name) :
    d'.read (Path.join l.root name) = .ok bytes ↔ d.read (Path.join l.root name) = .ok bytes := by
  have he := entryAt?_addsTo hadds hne
  by_cases hfile : d.entryAt? (Path.location l.root ++ [name]) = some (.file bytes)
  · -- The file lies in the root, so that was there before.
    have hroot : d.isDirectoryAt (Path.location l.root) := by
      by_contra hn
      rw [entryAt?_below hn (List.cons_ne_nil _ _)] at hfile
      cases hfile
    have hwalk : d.walk [] (Path.named l.root) = .ok (Path.location l.root) :=
      walk_of_isDirectoryAt (l.walk_root hready) (fun hm ↦ hup (List.mem_of_mem_filter hm)) hroot
    rw [read_join_iff (l.walk_root hready) hname, read_join_iff hwalk hname, he]
  · refine iff_of_false (fun h ↦ ?_) (fun h ↦ ?_)
    · rw [read_join_iff (l.walk_root hready) hname, he] at h
      exact hfile h.2.2
    · have hfound := entryAt?_of_read h
      rw [Path.location_join _ hname] at hfound
      exact hfile hfound

end

end Bulletin.Layout
