import Bulletin.Proofs.Template.Default
import Bulletin.Proofs.Template.Rendering

namespace Bulletin

open Text

namespace Section

variable {kind : Section} {s : List Char}

theorem newline_not_mem_of_mem_map_trim {line : List Char}
    (h : line ∈ (s.splitOn '\n').map trim) : '\n' ∉ line := by
  obtain ⟨line, hline, rfl⟩ := List.mem_map.mp h
  exact fun hn ↦ not_mem_of_mem_splitOn hline ((trim_isInfix line).subset hn)

theorem lines_iff_of_space (htrim : trim s = s) :
    [' '].intercalate ((s.splitOn '\n').map trim) = s ↔ '\n' ∉ s := by
  refine ⟨fun h ↦ ?_, fun h ↦ ?_⟩
  · rw [← h]
    exact not_mem_intercalate (by decide) (fun line hl ↦ newline_not_mem_of_mem_map_trim hl)
  · rw [List.splitOn_eq_singleton h, List.map_singleton, List.intercalate_singleton, htrim]

theorem lines_iff_of_newline (s : List Char) :
    ['\n'].intercalate ((s.splitOn '\n').map trim) = s ↔
      ∀ line ∈ s.splitOn '\n', trim line = line := by
  have hmap : (s.splitOn '\n').map trim = s.splitOn '\n' ↔
      ∀ line ∈ s.splitOn '\n', trim line = line := by
    simpa using @List.map_inj_left _ _ (s.splitOn '\n') trim id
  rw [← hmap]
  refine ⟨fun h ↦ ?_, fun h ↦ ?_⟩
  · have hne : (s.splitOn '\n').map trim ≠ [] := by simp
    have hsplit := List.splitOn_intercalate '\n' (fun _ hl ↦ newline_not_mem_of_mem_map_trim hl) hne
    rw [h] at hsplit
    exact hsplit.symm
  · rw [h, List.intercalate_splitOn]

instance (kind : Section) (s : List Char) : Decidable (kind.Keeps s) :=
  decidable_of_iff (¬Marker.chars <:+: s ∧ trim s = s ∧
      [kind.separator].intercalate ((s.splitOn '\n').map trim) = s ∧
      Escape.decodeChars (s ++ kind.ending) = s ++ kind.ending)
    ⟨fun ⟨hm, ht, hl, hd⟩ ↦ ⟨hm, ht, hl, hd⟩, fun ⟨hm, ht, hl, hd⟩ ↦ ⟨hm, ht, hl, hd⟩⟩

end Section

namespace Release

/-- No section holds an end mark or has blanks around it, the title and the tag are one line each,
no line of the description has blanks around it, and nothing is an escape sequence, not even
together with the line end behind the description. -/
structure IsPlain (r : Release) : Prop where
  unmarked : ∀ kind, ¬Marker.chars <:+: (r.get kind).toList
  trimmed : ∀ kind, trim (r.get kind).toList = (r.get kind).toList
  title_single_line : '\n' ∉ r.title.toList
  tag_single_line : '\n' ∉ r.tag.toList
  description_lines : ∀ line ∈ r.description.toList.splitOn '\n', trim line = line
  title_decoded : Escape.decode r.title = r.title
  tag_decoded : Escape.decode r.tag = r.tag
  description_decoded : Escape.decode (r.description ++ "\n") = r.description ++ "\n"

theorem isPlain_iff (r : Release) :
    r.IsPlain ↔ ∀ kind : Section, kind.Keeps (r.get kind).toList := by
  have htitle : Escape.decode r.title = r.title ↔
      Escape.decodeChars (r.title.toList ++ []) = r.title.toList ++ [] := by
    rw [Escape.decode_eq_self_iff, List.append_nil]
  have htag : Escape.decode r.tag = r.tag ↔
      Escape.decodeChars (r.tag.toList ++ []) = r.tag.toList ++ [] := by
    rw [Escape.decode_eq_self_iff, List.append_nil]
  have hdescription : Escape.decode (r.description ++ "\n") = r.description ++ "\n" ↔
      Escape.decodeChars (r.description.toList ++ ['\n']) = r.description.toList ++ ['\n'] := by
    rw [Escape.decode_eq_self_iff, String.toList_append]
    rfl
  refine ⟨fun h kind ↦ ?_, fun h ↦ ?_⟩
  · refine ⟨h.unmarked kind, h.trimmed kind, ?_, ?_⟩
    · cases kind with
      | title => exact (Section.lines_iff_of_space (h.trimmed .title)).mpr h.title_single_line
      | description => exact (Section.lines_iff_of_newline _).mpr h.description_lines
      | tag => exact (Section.lines_iff_of_space (h.trimmed .tag)).mpr h.tag_single_line
    · cases kind with
      | title => exact htitle.mp h.title_decoded
      | description => exact hdescription.mp h.description_decoded
      | tag => exact htag.mp h.tag_decoded
  · exact {
      unmarked := fun kind ↦ (h kind).unmarked
      trimmed := fun kind ↦ (h kind).trimmed
      title_single_line := (Section.lines_iff_of_space (h .title).trimmed).mp (h .title).lines
      tag_single_line := (Section.lines_iff_of_space (h .tag).trimmed).mp (h .tag).lines
      description_lines := (Section.lines_iff_of_newline _).mp (h .description).lines
      title_decoded := htitle.mpr (h .title).decoded
      description_decoded := hdescription.mpr (h .description).decoded
      tag_decoded := htag.mpr (h .tag).decoded }

theorem release_toTemplate_eq_iff (r : Release) : Template.release r.toTemplate = r ↔
    ∀ kind : Section, kind.Keeps (r.get kind).toList := by
  refine ⟨fun h kind ↦ ?_, fun h ↦ ?_⟩
  · -- The sections before one must be unmarked for it to be reached.
    induction kind using (measure fun kind ↦ Section.all.idxOf kind).wf.induction with
    | h kind ih =>
      have hiff := Template.get_release_toTemplate_iff r
        (fun other hother ↦ (ih other hother).unmarked)
      exact hiff.mp (congrArg (PerSection.get · kind) h)
  · refine PerSection.ext_get (fun kind ↦ ?_)
    exact (Template.get_release_toTemplate_iff r (fun other _ ↦ (h other).unmarked)).mpr (h kind)

theorem release_toTemplate {r : Release} (h : r.IsPlain) : Template.release r.toTemplate = r := by
  rw [isPlain_iff] at h
  exact (release_toTemplate_eq_iff r).mpr h

theorem release_toTemplate_nested : let r : Release :=
      ⟨"tag: //ASY", "# a\n\nTITLE: b/\nTAG: //ASYNC_EN\n\\description: \\d", ""⟩
    r.IsPlain ∧ Template.release r.toTemplate = r := by
  intro r
  have h : r.IsPlain := {
    unmarked := by decide +kernel
    trimmed := by decide +kernel
    title_single_line := by decide +kernel
    tag_single_line := by decide +kernel
    description_lines := by decide +kernel
    title_decoded := by decide +kernel
    tag_decoded := by decide +kernel
    description_decoded := by decide +kernel }
  exact ⟨h, release_toTemplate h⟩

-- The text is evaluated as a list of characters, as for its completeness.
set_option maxRecDepth 20000 in
theorem exists_default_keeps : ∃ s, Template.default = String.ofList s ∧
    ∀ kind ∈ Section.all, kind.Keeps (Template.announced s kind) := by
  refine ⟨_, rfl, ?_⟩
  decide +kernel

theorem keeps_defaultRelease (kind : Section) :
    kind.Keeps (Template.defaultRelease.get kind).toList := by
  obtain ⟨s, hs, hkeeps⟩ := exists_default_keeps
  have hget := Template.toList_get_release (String.ofList s) kind
  rw [Template.draft, Template.lines, String.toList_ofList, ← Template.announced] at hget
  rw [Template.defaultRelease, hs, hget]
  exact hkeeps kind kind.mem_all

theorem release_toTemplate_defaultRelease :
    Template.release Template.defaultRelease.toTemplate = Template.defaultRelease :=
  (release_toTemplate_eq_iff _).mpr keeps_defaultRelease

/-- What is read from a text comes back from its template exactly if it is plain. -/
theorem release_toTemplate_release_iff (text : String) :
    Template.release (Template.release text).toTemplate = Template.release text ↔
      (Template.release text).IsPlain := by
  rw [release_toTemplate_eq_iff, isPlain_iff]

/-- An escaped backslash is pasted into the template as a backslash, which makes an escape sequence
with the letter behind it. -/
theorem release_toTemplate_ne_of_escaped_backslash :
    let text := "TITLE: a\\\\nb//ASYNC_END\nDESCRIPTION: d//ASYNC_END\nTAG: 1//ASYNC_END"
    Template.release text = ⟨"a\\nb", "d", "1"⟩ ∧
      Template.release (Template.release text).toTemplate = ⟨"a\nb", "d", "1"⟩ ∧
      Template.release (Template.release text).toTemplate ≠ Template.release text := by
  decide +kernel

end Release

end Bulletin
