import Bulletin.Proofs.Template.Continuation
import Bulletin.Proofs.Text.Cut

namespace Bulletin

open Text

namespace Slot

variable {kind : Section} {slot slot' : Slot}

theorem take?_chars (h : slot.take? kind Marker.chars = some slot') :
    ∃ lines, slot = .collecting lines ∧ slot' = .done ([] :: lines) := by
  cases slot with
  | idle =>
    rw [take?_idle (Draft.not_opens_of_isComment (by decide) kind)] at h
    cases h
  | collecting lines =>
    have hmarked : Marker.occursIn Marker.chars := by decide
    have hbefore : trim (Marker.before Marker.chars) = [] := by decide
    rw [take?, close, if_pos hmarked, if_pos hmarked, hbefore, Option.some_inj] at h
    exact ⟨lines, rfl, h.symm⟩
  | done lines => cases h

theorem getLast?_flatMap_ne (lines : List (List Char)) :
    (lines.flatMap (· ++ ['\n'])).getLast? ≠ some '\\' := by
  induction lines using List.reverseRecOn with
  | nil => simp
  | append_singleton lines line _ =>
    rw [List.flatMap_append, List.flatMap_singleton, ← List.append_assoc, List.getLast?_append,
      List.getLast?_singleton, Option.some_or]
    decide

theorem exists_decodeChars_intercalate (lines : List (List Char)) :
    ∃ e, (∀ c ∈ e, isBlank c) ∧ Escape.decodeChars ([' '].intercalate (lines ++ [[]])) =
      Escape.decodeChars ([' '].intercalate lines) ++ e := by
  rcases eq_or_ne lines [] with rfl | hne
  · exact ⟨[], List.forall_mem_nil _, rfl⟩
  · -- the separator keeps a backslash at the end of the last line from whatever comes next
    refine ⟨[' '], List.forall_mem_singleton.mpr (by decide), ?_⟩
    rw [intercalate_append _ hne (List.cons_ne_nil _ _), List.intercalate_singleton,
      List.append_nil]
    exact Escape.decodeChars_append_space _ []

/-- An empty last line adds no more than a blank to what a section says, whatever its lines end
in. -/
theorem exists_decodeChars_text (kind : Section) (lines : List (List Char)) :
    ∃ e, (∀ c ∈ e, isBlank c) ∧ Escape.decodeChars ((Slot.done ([] :: lines)).text kind) =
      Escape.decodeChars ((Slot.collecting lines).text kind) ++ e := by
  cases kind with
  | title =>
    simp only [text, Slot.lines, List.reverse_cons]
    exact exists_decodeChars_intercalate lines.reverse
  | description =>
    simp only [text, Slot.lines, List.reverse_cons, List.flatMap_append, List.flatMap_singleton,
      List.nil_append]
    refine ⟨['\n'], List.forall_mem_singleton.mpr (by decide), ?_⟩
    exact Escape.decodeChars_append_blank (by decide) (fun _ ↦ getLast?_flatMap_ne _) []
  | tag =>
    simp only [text, Slot.lines, List.reverse_cons]
    exact exists_decodeChars_intercalate lines.reverse

end Slot

namespace Draft

/-- A line that is an end mark and nothing else closes one section, or changes nothing. -/
theorem feed_chars_cases (d : Draft) : d.feed Marker.chars = d ∨
    ∃ kind lines, d.get kind = .collecting lines ∧
      d.feed Marker.chars = d.set kind (.done ([] :: lines)) := by
  have htrim : trim Marker.chars = Marker.chars := by decide
  rw [feed_eq_offer, htrim]
  refine (offer_cases d Marker.chars).imp_right ?_
  rintro ⟨kind, slot, htake, hset⟩
  obtain ⟨lines, hcollecting, rfl⟩ := Slot.take?_chars htake
  exact ⟨kind, lines, hcollecting, hset⟩

theorem clean_finish_feed_chars (d : Draft) :
    (d.feed Marker.chars).finish.clean = d.finish.clean := by
  rcases d.feed_chars_cases with hsame | ⟨closed, lines, hcollecting, hset⟩
  · rw [hsame]
  · refine PerSection.ext_get (fun kind ↦ ?_)
    rw [← String.toList_inj, toList_get_clean_finish, toList_get_clean_finish, hset,
      PerSection.get_set]
    split
    · rename_i hkind
      obtain ⟨e, hblank, he⟩ := Slot.exists_decodeChars_text kind lines
      rw [he, Marker.trim_erase_append_blank _ hblank, hkind, hcollecting]
    · rfl

end Draft

namespace Template

theorem release_append_mark (text : String) :
    release (text ++ "\n" ++ Marker.text) = release text := by
  have hlines : lines Marker.text = [Marker.chars] := by decide
  rw [release, parse, draft_append_newline, hlines]
  exact (draft text).clean_finish_feed_chars

/-- The end of a text closes all sections that are still open: closing them by end marks, and going
on with end marks behind that, announces the same release. -/
theorem release_append_marks (text : String) (n : ℕ) :
    release (text ++ String.join (List.replicate n ("\n" ++ Marker.text))) = release text := by
  induction n generalizing text with
  | zero => rw [List.replicate_zero, String.join_nil, String.append_empty]
  | succ n ih =>
    rw [List.replicate_succ, String.join_cons, ← String.append_assoc, ih, ← String.append_assoc,
      release_append_mark]

end Template

end Bulletin
