import Bulletin.Proofs.Text.Blank
import Bulletin.Proofs.Text.Lines
import Bulletin.Template.Draft
import Mathlib.Data.List.Forall2

namespace Bulletin

open Text

/-- Two lines hold the same text between the blanks at their ends, none of which ends a line. -/
def Text.IsRespaced (line line' : List Char) : Prop :=
  ∃ text before after before' after' : List Char,
    (∀ c ∈ before ++ after ++ before' ++ after', isBlank c ∧ c ≠ '\n') ∧
    line = before ++ text ++ after ∧ line' = before' ++ text ++ after'

namespace Text.IsRespaced

variable {line line' : List Char}

theorem trim_eq (h : IsRespaced line line') : trim line' = trim line := by
  obtain ⟨text, before, after, before', after', hblank, rfl, rfl⟩ := h
  simp only [List.mem_append] at hblank
  have hb : ∀ c ∈ before, isBlank c := fun c hc ↦ (hblank c (by simp [hc])).1
  have ha : ∀ c ∈ after, isBlank c := fun c hc ↦ (hblank c (by simp [hc])).1
  have hb' : ∀ c ∈ before', isBlank c := fun c hc ↦ (hblank c (by simp [hc])).1
  have ha' : ∀ c ∈ after', isBlank c := fun c hc ↦ (hblank c (by simp [hc])).1
  rw [trim_append_blank _ ha, trim_append_blank _ ha', trim_blank_append hb,
    trim_blank_append hb']

theorem newline_not_mem (h : IsRespaced line line') (hline : '\n' ∉ line) : '\n' ∉ line' := by
  obtain ⟨text, before, after, before', after', hblank, rfl, rfl⟩ := h
  have hb : '\n' ∉ before' := fun hc ↦ (hblank '\n' (by simp [hc])).2 rfl
  have ha : '\n' ∉ after' := fun hc ↦ (hblank '\n' (by simp [hc])).2 rfl
  simp_all

theorem append_blank (line : List Char) {after : List Char}
    (h : ∀ c ∈ after, isBlank c ∧ c ≠ '\n') : IsRespaced line (line ++ after) :=
  ⟨line, [], [], [], after, by simpa using h, by simp, by simp⟩

theorem refl (line : List Char) : IsRespaced line line :=
  ⟨line, [], [], [], [], by simp, by simp, by simp⟩

theorem indent {indent : List Char} (h : ∀ c ∈ indent, isBlank c ∧ c ≠ '\n')
    (hline : '\n' ∉ line) : IsRespaced line (indent ++ trimStart line) := by
  refine ⟨trimStart line, line.takeWhile isBlank, [], indent, [], fun c hc ↦ ?_, ?_, by simp⟩
  · rw [List.append_nil, List.append_nil, List.mem_append] at hc
    rcases hc with hc | hc
    · refine ⟨List.mem_takeWhile_imp hc, ?_⟩
      rintro rfl
      exact hline ((List.takeWhile_prefix isBlank).mem hc)
    · exact h c hc
  · rw [List.append_nil, trimStart, List.takeWhile_append_dropWhile]

end Text.IsRespaced

namespace Draft

theorem feed_congr (d : Draft) {raw raw' : List Char} (h : trim raw' = trim raw) :
    d.feed raw' = d.feed raw := by
  rw [feed, feed, h]

theorem foldl_feed_respaced {lines lines' : List (List Char)}
    (h : List.Forall₂ IsRespaced lines lines') (d : Draft) :
    lines'.foldl feed d = lines.foldl feed d := by
  induction h generalizing d with
  | nil => rfl
  | cons hline _ ih => rw [List.foldl_cons, List.foldl_cons, d.feed_congr hline.trim_eq, ih]

end Draft

namespace Template

/-- The second text is the first one with other blanks at the ends of its lines. -/
def Respaced (s t : String) : Prop :=
  ∃ lines', List.Forall₂ IsRespaced (lines s) lines' ∧ t = String.ofList (['\n'].intercalate lines')

def withReturns (s : String) : String :=
  String.ofList (s.toList.flatMap fun c ↦ if c = '\n' then ['\r', '\n'] else [c])

def indented (indent : List Char) (s : String) : String :=
  String.ofList (['\n'].intercalate ((lines s).map fun line ↦ indent ++ trimStart line))

theorem newline_not_mem_of_respaced {lines lines' : List (List Char)}
    (h : List.Forall₂ IsRespaced lines lines') (hlines : ∀ line ∈ lines, '\n' ∉ line) :
    ∀ line ∈ lines', '\n' ∉ line := by
  induction h with
  | nil => exact List.forall_mem_nil _
  | cons hline _ ih =>
    rw [List.forall_mem_cons] at hlines ⊢
    exact ⟨hline.newline_not_mem hlines.1, ih hlines.2⟩

theorem lines_of_respaced {s : String} {lines' : List (List Char)}
    (h : List.Forall₂ IsRespaced (lines s) lines') :
    lines (String.ofList (['\n'].intercalate lines')) = lines' := by
  have hnewline := newline_not_mem_of_respaced h (fun _ hl ↦ not_mem_of_mem_splitOn hl)
  have hne : lines' ≠ [] := by
    rintro rfl
    exact List.splitOn_ne_nil '\n' s.toList (List.forall₂_nil_right_iff.mp h)
  rw [lines, String.toList_ofList, List.splitOn_intercalate '\n' hnewline hne]

theorem draft_of_respaced {s t : String} (h : Respaced s t) : draft t = draft s := by
  obtain ⟨lines', hlines, rfl⟩ := h
  rw [draft, lines_of_respaced hlines, Draft.foldl_feed_respaced hlines, draft]

theorem exists_respaced_of_returns {lines : List (List Char)} (h : ∀ line ∈ lines, '\n' ∉ line) :
    ∃ lines', List.Forall₂ IsRespaced lines lines' ∧
      (['\n'].intercalate lines).flatMap (fun c ↦ if c = '\n' then ['\r', '\n'] else [c]) =
        ['\n'].intercalate lines' := by
  have hkeep (line : List Char) (hline : '\n' ∉ line) :
      line.flatMap (fun c ↦ if c = '\n' then ['\r', '\n'] else [c]) = line := by
    rw [List.flatMap_congr (g := fun c ↦ [c]), List.flatMap_singleton']
    intro c hc
    exact if_neg (fun he : c = '\n' ↦ hline (he ▸ hc))
  induction lines with
  | nil => exact ⟨[], .nil, rfl⟩
  | cons first lines ih =>
    rw [List.forall_mem_cons] at h
    cases lines with
    | nil =>
      refine ⟨[first], .cons (.refl first) .nil, ?_⟩
      rw [List.intercalate_singleton, hkeep first h.1]
    | cons next lines =>
      obtain ⟨lines', hlines, hflat⟩ := ih h.2
      have hreturn : IsRespaced first (first ++ ['\r']) :=
        .append_blank first (List.forall_mem_singleton.mpr (by decide))
      refine ⟨(first ++ ['\r']) :: lines', .cons hreturn hlines, ?_⟩
      obtain ⟨line', rest', rfl⟩ : ∃ line' rest', lines' = line' :: rest' := by
        cases hlines with
        | cons _ _ => exact ⟨_, _, rfl⟩
      rw [List.intercalate_cons_cons, List.intercalate_cons_cons, List.flatMap_append,
        List.flatMap_append, hflat, hkeep first h.1]
      simp

theorem respaced_withReturns (s : String) : Respaced s (withReturns s) := by
  obtain ⟨lines', hlines, hflat⟩ :=
    @exists_respaced_of_returns (lines s) (fun _ hl ↦ not_mem_of_mem_splitOn hl)
  refine ⟨lines', hlines, ?_⟩
  rw [withReturns, ← hflat, lines, List.intercalate_splitOn]

theorem respaced_indented {indent : List Char} (h : ∀ c ∈ indent, isBlank c ∧ c ≠ '\n')
    (s : String) : Respaced s (indented indent s) := by
  refine ⟨_, ?_, rfl⟩
  rw [List.forall₂_map_right_iff, List.forall₂_same]
  exact fun line hl ↦ .indent h (not_mem_of_mem_splitOn hl)

/-- The blanks at the ends of its lines do not matter for what a template says: neither those that
belong to its line ends nor those of its indentation. -/
theorem parse_of_respaced (s : String) :
    (∀ t, Respaced s t → parse t = parse s) ∧
    parse (withReturns s) = parse s ∧
    ∀ indent, (∀ c ∈ indent, isBlank c ∧ c ≠ '\n') → parse (indented indent s) = parse s := by
  have hparse (t : String) (h : Respaced s t) : parse t = parse s := by
    rw [parse, parse, draft_of_respaced h]
  refine ⟨hparse, hparse _ (respaced_withReturns s), fun indent h ↦ ?_⟩
  exact hparse _ (respaced_indented h s)

/-- A line that ends in a backslash gets blanks behind it, of which one separates lines
elsewhere. -/
theorem parse_of_respaced_backslash :
    let s := "TITLE: a\\\n# b//ASYNC_END"
    let t := "\u00A0TITLE: a\\ \t\r\n\u3000# b//ASYNC_END\u2028"
    let indent := ['\t', ' ']
    Respaced s t ∧ parse t = parse s ∧ parse (withReturns s) = parse s ∧
      (∀ c ∈ indent, isBlank c ∧ c ≠ '\n') ∧ parse (indented indent s) = parse s ∧
      parse s = ⟨"a\\ # b", "", ""⟩ := by
  intro s t indent
  have hfirst : IsRespaced "TITLE: a\\".toList "\u00A0TITLE: a\\ \t\r".toList :=
    ⟨"TITLE: a\\".toList, [], [], ['\u00A0'], [' ', '\t', '\r'], by decide +kernel, rfl,
      by decide +kernel⟩
  have hsecond : IsRespaced "# b//ASYNC_END".toList "\u3000# b//ASYNC_END\u2028".toList :=
    ⟨"# b//ASYNC_END".toList, [], [], ['\u3000'], ['\u2028'], by decide +kernel, rfl,
      by decide +kernel⟩
  have ht : Respaced s t := by
    refine ⟨["\u00A0TITLE: a\\ \t\r".toList, "\u3000# b//ASYNC_END\u2028".toList], ?_,
      by decide +kernel⟩
    have hlines : lines s = ["TITLE: a\\".toList, "# b//ASYNC_END".toList] := by decide +kernel
    rw [hlines]
    exact .cons hfirst (.cons hsecond .nil)
  have hindent : ∀ c ∈ indent, isBlank c ∧ c ≠ '\n' := by decide
  obtain ⟨hparse, hreturns, hindented⟩ := parse_of_respaced s
  exact ⟨ht, hparse t ht, hreturns, hindent, hindented indent hindent, by decide +kernel⟩

end Template

end Bulletin
