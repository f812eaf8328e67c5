import Bulletin.Compose

namespace Bulletin.Template

open Text

def announced (s : List Char) (kind : Section) : List Char :=
  trim (Marker.erase (Escape.decodeChars
    ((((s.splitOn '\n').foldl Draft.feed Draft.start).get kind).text kind)))

theorem isComplete_release_ofList (s : List Char) :
    (release (String.ofList s)).isComplete ↔ ∀ kind ∈ Section.all, announced s kind ≠ [] := by
  simp [release, Release.isComplete, PerSection.toList_eq_map_get, Release.clean,
    Release.cleanText, parse, draft, lines, Draft.finish, announced]

-- Evaluation would decode the text of a string again for each of its characters, so it is turned
-- into the list of them first.
set_option maxRecDepth 20000 in
theorem exists_default_eq_ofList : ∃ s, default = String.ofList s ∧ s.all isBlank = false ∧
    ∀ kind ∈ Section.all, announced s kind ≠ [] := by
  refine ⟨_, rfl, ?_, ?_⟩
  · decide +kernel
  · decide +kernel

theorem isComplete_defaultRelease : defaultRelease.isComplete := by
  obtain ⟨s, hs, -, hannounced⟩ := exists_default_eq_ofList
  rw [defaultRelease, hs]
  exact (isComplete_release_ofList s).mpr hannounced

theorem usable_default : usable (some default) = some default := by
  obtain ⟨s, hs, hblank, -⟩ := exists_default_eq_ofList
  rw [hs]
  simp [usable, isAllBlank, hblank]

end Bulletin.Template
