import Bulletin.Proofs.Template.Nesting
import Bulletin.Proofs.Text.Escape
import Bulletin.Proofs.Text.Lines

namespace Bulletin

open Text

namespace Section

def separator : Section → Char
  | description => '\n'
  | title | tag => ' '

def ending : Section → List Char
  | description => ['\n']
  | title | tag => []

/-- A text that a section announces as it is written. -/
structure Keeps (kind : Section) (s : List Char) : Prop where
  unmarked : ¬Marker.chars <:+: s
  trimmed : trim s = s
  lines : [kind.separator].intercalate ((s.splitOn '\n').map trim) = s
  decoded : Escape.decodeChars (s ++ kind.ending) = s ++ kind.ending

theorem ending_cases (kind : Section) : kind.ending = [] ∨ kind.ending = ['\n'] := by
  cases kind
  · exact Or.inl rfl
  · exact Or.inr rfl
  · exact Or.inl rfl

theorem isBlank_of_mem_ending {kind : Section} {c : Char} (hc : c ∈ kind.ending) : isBlank c := by
  cases kind with
  | description => exact List.mem_singleton.mp hc ▸ rfl
  | title => cases hc
  | tag => cases hc

theorem trim_erase_append_ending {kind : Section} {e : List Char} (he : e <:+ kind.ending)
    (s : List Char) : trim (Marker.erase (s ++ e)) = trim (Marker.erase s) :=
  Marker.trim_erase_append_blank s (fun _ hc ↦ isBlank_of_mem_ending (he.subset hc))

end Section

namespace Template

variable {kind : Section} {s t : List Char}

theorem eq_of_cleaned (h : trim (Marker.erase (Escape.decodeChars (s ++ kind.ending))) = t)
    (hlong : s.length ≤ t.length) :
    s = t ∧ ¬Marker.chars <:+: s ∧
      Escape.decodeChars (s ++ kind.ending) = s ++ kind.ending := by
  -- Decoding, erasing and trimming shorten what they change, so none of them has changed a text
  -- that has kept its length.
  have hdecoded : Escape.decodeChars (s ++ kind.ending) = s ++ kind.ending := by
    refine (Escape.decodeChars_append_cases kind.ending_cases s).resolve_right ?_
    rintro ⟨x, e, hx, he, hshort⟩
    rw [hx, Section.trim_erase_append_ending he] at h
    have htrim := length_trim_le (Marker.erase x)
    have herase := Marker.length_erase_le x
    rw [h] at htrim
    omega
  rw [hdecoded, Section.trim_erase_append_ending (List.suffix_refl _)] at h
  have htrim := length_trim_le (Marker.erase s)
  have hclear : ¬Marker.chars <:+: s := by
    intro hmark
    have herase := Marker.length_erase_of_marked hmark
    have hpos := List.length_pos_iff.mpr Marker.chars_ne_nil
    rw [h] at htrim
    omega
  rw [Marker.erase_of_unmarked hclear] at h
  refine ⟨?_, hclear, hdecoded⟩
  rw [← h]
  exact (trim_eq_self_of_length (h ▸ hlong)).symm

theorem joined_eq {texts : List (List Char)} (hne : texts ≠ []) (kind : Section) :
    joined texts kind = [kind.separator].intercalate texts ++ kind.ending := by
  cases kind with
  | description => exact flatMap_append_eq_intercalate ['\n'] hne
  | title => exact (List.append_nil _).symm
  | tag => exact (List.append_nil _).symm

def fieldLines (kind : Section) (s : List Char) : List (List Char) :=
  (kind.token.toList ++ ' ' :: (s ++ Marker.chars)).splitOn '\n'

theorem lines_toTemplate (r : Release) : lines r.toTemplate =
    fieldLines .title r.title.toList ++ (fieldLines .description r.description.toList ++
      (fieldLines .tag r.tag.toList ++ [[]])) := by
  have htext : r.toTemplate.toList =
      Section.title.token.toList ++ ' ' :: (r.title.toList ++ Marker.chars) ++ '\n' ::
      (Section.description.token.toList ++ ' ' :: (r.description.toList ++ Marker.chars) ++ '\n' ::
      (Section.tag.token.toList ++ ' ' :: (r.tag.toList ++ Marker.chars) ++ '\n' :: [])) := by
    simp [Release.toTemplate, Section.all, String.join, PerSection.get, Marker.chars]
  rw [lines, htext]
  simp only [List.splitOn_append_cons_self, List.splitOn_nil, fieldLines]

theorem markLast_ne_nil {lines : List (List Char)} (hne : lines ≠ []) (after : List Char) :
    markLast after lines ≠ [] := by
  cases lines with
  | nil => exact absurd rfl hne
  | cons line lines => cases lines <;> exact List.cons_ne_nil _ _

theorem intercalate_markLast {lines : List (List Char)} (hne : lines ≠ []) (after : List Char) :
    ['\n'].intercalate (markLast after lines) =
      ['\n'].intercalate lines ++ Marker.chars ++ after := by
  induction lines using markLast.induct with
  | case1 => exact absurd rfl hne
  | case2 line => simp [markLast]
  | case3 line next lines ih =>
    have hnext := List.cons_ne_nil next lines
    rw [markLast, List.intercalate_cons_of_ne_nil (markLast_ne_nil hnext after), ih hnext,
      List.intercalate_cons_cons]
    simp only [List.append_assoc]

def fieldBlock (kind : Section) (s : List Char) (h : ¬Marker.chars <:+: s) : Block where
  kind := kind
  indent := []
  word := kind.token.toList
  first := ' ' :: (s.splitOn '\n').head (List.splitOn_ne_nil '\n' s)
  more := (s.splitOn '\n').tail
  after := []
  isToken := rfl
  isBlank_indent := rfl
  isBlank_after _ := rfl
  unmarked := by
    intro line hl
    rcases List.mem_cons.mp hl with rfl | hl
    · refine Marker.unmarked_append (by decide : '/' ∉ [' ']) (fun hm ↦ h ?_)
      exact hm.trans (infix_of_mem_splitOn (List.head_mem _))
    · exact fun hm ↦ h (hm.trans (infix_of_mem_splitOn (List.mem_of_mem_tail hl)))
  newline_not_mem := by
    intro line hl
    simp only [List.mem_cons] at hl
    rcases hl with rfl | rfl | rfl | hl
    · exact List.not_mem_nil
    · exact List.not_mem_nil
    · have hfirst := not_mem_of_mem_splitOn (List.head_mem (List.splitOn_ne_nil '\n' s))
      simpa using hfirst
    · exact not_mem_of_mem_splitOn (List.mem_of_mem_tail hl)

theorem lines_fieldBlock (kind : Section) (h : ¬Marker.chars <:+: s) :
    (fieldBlock kind s h).lines = fieldLines kind s := by
  have hne : (fieldBlock kind s h).lines ≠ [] := markLast_ne_nil (List.cons_ne_nil _ _) []
  have hs := List.cons_head_tail (List.splitOn_ne_nil '\n' s)
  have htext : ['\n'].intercalate (fieldBlock kind s h).lines =
      kind.token.toList ++ ' ' :: (s ++ Marker.chars) := by
    have hfirst := intercalate_append_cons ['\n'] (kind.token.toList ++ [' '])
      ((s.splitOn '\n').head (List.splitOn_ne_nil '\n' s)) (s.splitOn '\n').tail
    rw [hs, List.intercalate_splitOn] at hfirst
    rw [Block.lines, intercalate_markLast (List.cons_ne_nil _ _)]
    simpa [fieldBlock] using congrArg (· ++ Marker.chars) hfirst
  rw [← List.splitOn_intercalate '\n' (fieldBlock kind s h).newline_not_mem_lines hne, htext,
    fieldLines]

theorem texts_fieldBlock (kind : Section) (h : ¬Marker.chars <:+: s) :
    (fieldBlock kind s h).texts = (s.splitOn '\n').map trim := by
  have hfirst : trim (fieldBlock kind s h).first = trim ((s.splitOn '\n').head _) :=
    trim_blank_append (by decide : ∀ c ∈ [' '], isBlank c) _
  rw [Block.texts, List.map_cons, hfirst, ← List.map_cons]
  exact congrArg (List.map trim) (List.cons_head_tail (List.splitOn_ne_nil '\n' s))

theorem newline_not_mem_chars : '\n' ∉ Marker.chars := by
  decide

variable {closed : List Section} {d : Draft} {lines texts : List (List Char)} {line : List Char}

theorem Settled.feed_token (hd : Settled closed d) (hk : kind ∉ closed) (line : List Char) :
    d.feed (kind.token.toList ++ ' ' :: line) = d.set kind (if Marker.chars <:+: line then
      .done [trim (Marker.erase line)] else .collecting [trim (Marker.erase line)]) := by
  have htoken : kind.IsToken kind.token.toList := rfl
  have hopen : trim (kind.token.toList ++ ' ' :: line) =
      kind.token.toList ++ trimEnd (' ' :: line) := htoken.trim_append _
  have htext : trim (Marker.erase (trimEnd (' ' :: line))) = trim (Marker.erase line) := by
    have hblank : trim (trimEnd (' ' :: line)) = trim line := by
      rw [trim_trimEnd]
      exact trim_blank_append (by decide : ∀ c ∈ [' '], isBlank c) line
    rw [← Marker.trim_erase_trim, hblank, Marker.trim_erase_trim]
  have hslash : '/' ∉ kind.token.toList ++ [' '] := by
    cases kind <;> decide
  have hmark : Marker.occursIn (trim (kind.token.toList ++ ' ' :: line)) ↔
      Marker.chars <:+: line := by
    rw [Marker.occursIn_iff, Marker.infix_trim_iff, List.append_cons]
    refine ⟨fun h ↦ by_contra (fun hn ↦ Marker.unmarked_append hslash hn h), fun h ↦ ?_⟩
    exact h.trans (List.suffix_append _ _).isInfix
  refine hd.feed_opening hk ⟨_, _, htoken, hopen⟩ ?_
  rw [hopen] at hmark ⊢
  rw [Slot.take?, Section.opening?_append htoken, Option.map_some, Slot.close, htext]
  exact congrArg some (if_congr hmark rfl rfl)

section

variable (hd : Settled closed d) (hprec : ∀ other : Section, other.Precedes kind → other ∈ closed)
include hd hprec

theorem Settled.foldl_feed_field (hk : kind ∉ closed) (hs : ¬Marker.chars <:+: s) :
    (fieldLines kind s).foldl Draft.feed d =
      d.set kind (.done ((s.splitOn '\n').map trim).reverse) := by
  rw [← lines_fieldBlock kind hs, ← texts_fieldBlock kind hs]
  exact hd.foldl_feed_block hk (fun _ _ other hother hbefore ↦ absurd (hprec other hbefore) hother)

theorem Settled.set_field (hk : kind ∉ closed) (hs : ¬Marker.chars <:+: s) :
    Settled (kind :: closed) ((fieldLines kind s).foldl Draft.feed d) := by
  rw [hd.foldl_feed_field hprec hk hs]
  exact hd.set kind _

/-- A section that is open is closed by the first line with a mark. Its texts take less room than
the lines they come from, by a mark at least. -/
theorem Settled.exists_done (hm : ∃ line ∈ lines, Marker.chars <:+: line)
    (texts : List (List Char)) :
    ∃ last texts', (lines.foldl Draft.feed (d.set kind (.collecting texts))).get kind =
      .done (last :: texts') ∧
      room (last :: texts') + Marker.chars.length ≤ room texts + room lines := by
  induction lines generalizing texts with
  | nil =>
    obtain ⟨line, hl, -⟩ := hm
    exact absurd hl List.not_mem_nil
  | cons line lines ih =>
    have hl : ∀ other ∉ closed, other.Precedes kind → ¬other.Opens (trim line) :=
      fun other hother hbefore ↦ absurd (hprec other hbefore) hother
    have htrim := length_trim_le line
    rw [List.foldl_cons]
    by_cases hline : Marker.chars <:+: line
    · have hmark := Marker.infix_trim_iff.mpr hline
      have ho := Marker.occursIn_iff.mpr hmark
      have ht : (Slot.collecting texts).take? kind (trim line) =
          some (.done (trim (Marker.before (trim line)) :: texts)) := by
        simp only [Slot.take?, Slot.close, ho, if_true]
      refine ⟨trim (Marker.before (trim line)), texts, ?_, ?_⟩
      · rw [hd.feed_collecting hl ht]
        exact Draft.foldl_feed_done (PerSection.get_set_self _ _ _) lines
      · have hbefore := Marker.length_before_of_marked hmark
        have hlast := length_trim_le (Marker.before (trim line))
        simp only [room_cons]
        omega
    · have hclear : ¬Marker.chars <:+: trim line := fun h ↦ hline (Marker.infix_trim_iff.mp h)
      have hrest : ∃ line ∈ lines, Marker.chars <:+: line :=
        ((List.exists_mem_cons_iff _ _ _).mp hm).resolve_left hline
      obtain ⟨last, texts', hdone, hroom⟩ := ih hrest (trim line :: texts)
      refine ⟨last, texts', ?_, ?_⟩
      · rw [hd.feed_collecting hl (take?_line hclear), hdone]
      · simp only [room_cons] at hroom ⊢
        omega

theorem Settled.exists_done_field (hk : kind ∉ closed) (s : List Char) :
    ∃ last texts, ((fieldLines kind s).foldl Draft.feed d).get kind = .done (last :: texts) ∧
      room (last :: texts) ≤ s.length + 1 := by
  obtain ⟨first, rest, hlines⟩ :=
    List.exists_cons_of_ne_nil (List.splitOn_ne_nil '\n' (s ++ Marker.chars))
  have hfield : fieldLines kind s = (kind.token.toList ++ ' ' :: first) :: rest := by
    have htoken : '\n' ∉ kind.token.toList ++ [' '] := by
      cases kind <;> decide
    have hsplit := splitOn_append_of_not_mem htoken (s ++ Marker.chars)
    rw [hlines] at hsplit
    simpa [fieldLines] using hsplit
  have hroom : room (first :: rest) = s.length + Marker.chars.length + 1 := by
    rw [← hlines, room_splitOn, List.length_append]
  have hmarked : ∃ line ∈ first :: rest, Marker.chars <:+: line := by
    rw [← hlines]
    exact exists_line_of_infix newline_not_mem_chars (List.suffix_append s Marker.chars).isInfix
  have hfirst := length_trim_le (Marker.erase first)
  rw [room_cons] at hroom
  rw [hfield, List.foldl_cons, hd.feed_token hk]
  by_cases h : Marker.chars <:+: first
  · refine ⟨trim (Marker.erase first), [], ?_, ?_⟩
    · rw [if_pos h]
      exact Draft.foldl_feed_done (PerSection.get_set_self _ _ _) rest
    · have herase := Marker.length_erase_of_marked h
      rw [room_cons, room_nil]
      omega
  · have hrest : ∃ line ∈ rest, Marker.chars <:+: line :=
      ((List.exists_mem_cons_iff _ _ _).mp hmarked).resolve_left h
    obtain ⟨last, texts, hdone, hle⟩ := hd.exists_done hprec hrest [trim (Marker.erase first)]
    refine ⟨last, texts, ?_, ?_⟩
    · rw [if_neg h, hdone]
    · have herase := Marker.length_erase_le first
      simp only [room_cons, room_nil] at hle ⊢
      omega

end

theorem exists_settled (r : Release) (hclear : ∀ other : Section, other.Precedes kind →
    ¬Marker.chars <:+: (r.get other).toList) :
    ∃ closed d, ∃ rest : List (List Char), Settled closed d ∧ kind ∉ closed ∧
      (∀ other : Section, other.Precedes kind → other ∈ closed) ∧
      draft r.toTemplate =
        rest.foldl Draft.feed ((fieldLines kind (r.get kind).toList).foldl Draft.feed d) := by
  have hdraft : draft r.toTemplate = (lines r.toTemplate).foldl Draft.feed Draft.start := rfl
  simp only [lines_toTemplate, List.foldl_append] at hdraft
  cases kind with
  | title =>
    refine ⟨[], Draft.start, fieldLines .description r.description.toList ++
      (fieldLines .tag r.tag.toList ++ [[]]), settled_start, List.not_mem_nil, by decide, ?_⟩
    rw [List.foldl_append, List.foldl_append]
    exact hdraft
  | description =>
    have htitle : Settled [.title] ((fieldLines .title r.title.toList).foldl Draft.feed _) :=
      settled_start.set_field (by decide) List.not_mem_nil (hclear .title (by decide))
    refine ⟨_, _, fieldLines .tag r.tag.toList ++ [[]], htitle, by decide, by decide, ?_⟩
    rw [List.foldl_append]
    exact hdraft
  | tag =>
    have htitle : Settled [.title] ((fieldLines .title r.title.toList).foldl Draft.feed _) :=
      settled_start.set_field (by decide) List.not_mem_nil (hclear .title (by decide))
    have hdescription : Settled [.description, .title]
        ((fieldLines .description r.description.toList).foldl Draft.feed _) :=
      htitle.set_field (by decide) (by decide) (hclear .description (by decide))
    exact ⟨_, _, [[]], hdescription, by decide, by decide, hdraft⟩

theorem toList_get_release (text : String) (kind : Section) :
    ((release text).get kind).toList =
      trim (Marker.erase (Escape.decodeChars (((draft text).get kind).text kind))) :=
  (draft text).toList_get_clean_finish kind

theorem get_release_of_done {text : String} {texts : List (List Char)}
    (h : (draft text).get kind = .done texts) (hne : texts ≠ []) :
    ((release text).get kind).toList = trim (Marker.erase (Escape.decodeChars
      ([kind.separator].intercalate texts.reverse ++ kind.ending))) := by
  have htext := text_done kind texts.reverse
  rw [List.reverse_reverse, joined_eq (by simpa using hne)] at htext
  rw [toList_get_release, h, htext]

/-- A section comes back from the template of a release exactly if it is announced as it is
written. -/
theorem get_release_toTemplate_iff (r : Release) (hclear : ∀ other : Section,
    other.Precedes kind → ¬Marker.chars <:+: (r.get other).toList) :
    (release r.toTemplate).get kind = r.get kind ↔ kind.Keeps (r.get kind).toList := by
  obtain ⟨closed, d, rest, hd, hk, hprec, hdraft⟩ := exists_settled r hclear
  have hexact (hs : ¬Marker.chars <:+: (r.get kind).toList) : (draft r.toTemplate).get kind =
      .done (((r.get kind).toList.splitOn '\n').map trim).reverse := by
    rw [hdraft, hd.foldl_feed_field hprec hk hs]
    exact Draft.foldl_feed_done (PerSection.get_set_self _ _ _) rest
  rw [← String.toList_inj]
  refine ⟨fun h ↦ ?_, fun h ↦ ?_⟩
  · obtain ⟨last, texts, hdone, hroom⟩ := hd.exists_done_field hprec hk (r.get kind).toList
    have hfinal : (draft r.toTemplate).get kind = .done (last :: texts) := by
      rw [hdraft, Draft.foldl_feed_done hdone]
    have hget := get_release_of_done hfinal (List.cons_ne_nil last texts)
    -- What is read is not longer than the section, so cleaning has left it as it is.
    have hlong : ([kind.separator].intercalate (last :: texts).reverse).length ≤
        (r.get kind).toList.length := by
      have hlength := length_intercalate kind.separator
        (List.reverse_ne_nil_iff.mpr (List.cons_ne_nil last texts))
      rw [room_reverse] at hlength
      omega
    rw [h] at hget
    obtain ⟨hsame, hs, hdecoded⟩ := eq_of_cleaned hget.symm hlong
    rw [hsame] at hs hdecoded
    have htexts := Slot.done.inj (hfinal.symm.trans (hexact hs))
    rw [htexts, List.reverse_reverse] at hsame
    refine ⟨hs, ?_, hsame, hdecoded⟩
    rw [hget, trim_trim]
  · have hget := get_release_of_done (hexact h.unmarked) (by simp)
    rw [List.reverse_reverse, h.lines, h.decoded,
      Section.trim_erase_append_ending (List.suffix_refl _), Marker.erase_of_unmarked h.unmarked,
      h.trimmed] at hget
    exact hget

end Template

end Bulletin
