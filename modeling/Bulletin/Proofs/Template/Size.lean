import Bulletin.Proofs.Template.Comments
import Bulletin.Proofs.Text.Decoding

namespace Bulletin

open Text

variable {d : Draft} {kind : Section} {line rest raw : List Char} {slot slot' : Slot}

namespace PerSection

def total (p : PerSection ℕ) : ℕ :=
  p.title + p.description + p.tag

theorem total_le_total {p q : PerSection ℕ} (h : ∀ kind, p.get kind ≤ q.get kind) :
    p.total ≤ q.total :=
  Nat.add_le_add (Nat.add_le_add (h .title) (h .description)) (h .tag)

end PerSection

namespace Section

theorem length_of_opening? (h : kind.opening? line = some rest) :
    line.length = kind.token.toList.length + rest.length := by
  obtain ⟨word, hword, rfl⟩ := exists_of_opening? h
  rw [List.length_append, hword.length_eq]

theorem length_token_pos (kind : Section) : 0 < kind.token.toList.length := by
  cases kind <;> decide

end Section

namespace Slot

theorem length_addition (kind : Section) (line : List Char) :
    (addition kind line).length = line.length + 1 := by
  cases kind <;> simp [addition]

/-- What a section that takes a line makes of it. The first line it takes is longer than what is
kept of it, by the token, and of any other line a part is kept as it is written. -/
inductive Gains (kind : Section) (raw : List Char) : Slot → Slot → Prop
  | opening {slot : Slot} (first : List Char) (hlines : slot.lines? = some [first])
      (hlength : kind.token.toList.length + first.length ≤ raw.length) :
      Gains kind raw .idle slot
  | further {slot : Slot} (texts : List (List Char)) (part : List Char)
      (hlines : slot.lines? = some (part :: texts)) (hpart : part <:+: raw) :
      Gains kind raw (.collecting texts) slot

theorem gains_of_take? (h : slot.take? kind (trim raw) = some slot') :
    Gains kind raw slot slot' := by
  cases slot with
  | idle =>
    obtain ⟨rest, hrest, rfl⟩ := Option.map_eq_some_iff.mp h
    refine .opening (trim (Marker.erase rest)) (lines?_close _ _) ?_
    have hline := Section.length_of_opening? hrest
    have hraw := length_trim_le raw
    have herase := Marker.length_erase_le rest
    have hfirst := length_trim_le (Marker.erase rest)
    omega
  | collecting texts =>
    rw [take?, Option.some_inj] at h
    subst h
    refine .further texts _ (lines?_close _ _) ?_
    split
    · have hbefore := (Marker.before_isPrefix (trim raw)).isInfix
      exact (trim_isInfix _).trans (hbefore.trans (trim_isInfix raw))
    · exact trim_isInfix raw
  | done texts => cases h

/-- What a section has used up of a template: its token, and its lines with a line end each. -/
def share (kind : Section) (slot : Slot) : ℕ :=
  match slot.lines? with
  | none => 0
  | some texts => kind.token.toList.length + room texts

theorem share_of_lines? {texts : List (List Char)} (h : slot.lines? = some texts)
    (kind : Section) : slot.share kind = kind.token.toList.length + room texts := by
  rw [share, h]

theorem Gains.share_le (h : Gains kind raw slot slot') :
    slot'.share kind ≤ slot.share kind + (raw.length + 1) := by
  cases h with
  | opening first hlines hlength =>
    rw [share_of_lines? hlines, room_cons, room_nil]
    omega
  | further texts part hlines hpart =>
    have hlength := hpart.length_le
    have hbefore : (collecting texts).lines? = some texts := rfl
    rw [share_of_lines? hlines, share_of_lines? hbefore, room_cons]
    omega

theorem length_text_le_room (kind : Section) (slot : Slot) :
    (slot.text kind).length ≤ room slot.lines := by
  have hwords : ([' '].intercalate slot.lines.reverse).length ≤ room slot.lines := by
    rcases eq_or_ne slot.lines [] with hnil | hne
    · rw [hnil]
      exact Nat.zero_le _
    · have hlength := length_intercalate ' ' (List.reverse_ne_nil_iff.mpr hne)
      rw [room_reverse] at hlength
      omega
  cases kind with
  | title => exact hwords
  | description =>
    have hlines : (slot.text .description).length = room slot.lines.reverse := by
      simp [text, room, List.length_flatMap]
    rw [hlines, room_reverse]
  | tag => exact hwords

/-- The token of a section leaves more than its text needs. -/
theorem length_text_le_share (kind : Section) (slot : Slot) :
    (slot.text kind).length ≤ slot.share kind - 1 := by
  have hroom := length_text_le_room kind slot
  have htoken := kind.length_token_pos
  rw [lines_eq_getD] at hroom
  cases hlines : slot.lines? with
  | none =>
    rw [hlines, Option.getD_none, room_nil] at hroom
    omega
  | some texts =>
    rw [hlines, Option.getD_some] at hroom
    rw [share_of_lines? hlines]
    omega

theorem Gains.text_cases (hfilled : slot.IsFilled) (h : Gains kind raw slot slot') :
    slot = .idle ∧ (slot'.text kind).length ≤ raw.length ∨
    ∃ texts part, slot = .collecting texts ∧ part <:+: raw ∧
      slot'.text kind = slot.text kind ++ addition kind part ∧
      (addition kind part).length ≤ raw.length + 1 := by
  cases h with
  | opening first hlines hlength =>
    refine Or.inl ⟨rfl, ?_⟩
    have htext := length_text_le_share kind slot'
    rw [share_of_lines? hlines, room_cons, room_nil] at htext
    omega
  | further texts part hlines hpart =>
    refine Or.inr ⟨texts, part, rfl, hpart, text_of_lines_cons ?_ ?_ kind, ?_⟩
    · exact fun hnil ↦ hfilled (congrArg some hnil)
    · rw [lines_eq_getD, hlines, Option.getD_some, lines]
    · rw [length_addition]
      exact Nat.succ_le_succ hpart.length_le

end Slot

namespace Draft

def size (d : Draft) : ℕ :=
  (PerSection.ofFn fun kind ↦ ((d.get kind).text kind).length).total

def share (d : Draft) : ℕ :=
  (PerSection.ofFn fun kind ↦ (d.get kind).share kind).total

theorem share_set (d : Draft) (kind : Section) (slot : Slot) :
    share (d.set kind slot) + (d.get kind).share kind = d.share + slot.share kind := by
  cases kind <;>
    simp only [share, PerSection.total, PerSection.ofFn, PerSection.set, PerSection.get] <;>
    omega

theorem feed_cases (d : Draft) (raw : List Char) : d.feed raw = d ∨
    ∃ kind slot, d.feed raw = d.set kind slot ∧ (d.get kind).Gains kind raw slot := by
  rw [feed_eq_offer]
  refine (offer_cases d (trim raw)).imp_right ?_
  rintro ⟨kind, slot, htake, hset⟩
  exact ⟨kind, slot, hset, Slot.gains_of_take? htake⟩

theorem share_feed_le (d : Draft) (raw : List Char) :
    (d.feed raw).share ≤ d.share + (raw.length + 1) := by
  rcases d.feed_cases raw with hsame | ⟨kind, slot, hset, hgains⟩
  · rw [hsame]
    exact Nat.le_add_right _ _
  · have hshare := d.share_set kind slot
    have hslot := hgains.share_le
    rw [hset]
    omega

theorem share_foldl_feed_le (d : Draft) (lines : List (List Char)) :
    (lines.foldl feed d).share ≤ d.share + room lines := by
  induction lines generalizing d with
  | nil => exact Nat.le_refl _
  | cons raw lines ih =>
    have hrest := ih (d.feed raw)
    have hfirst := d.share_feed_le raw
    rw [List.foldl_cons, room_cons]
    omega

theorem size_le_share (d : Draft) : d.size ≤ d.share - 1 := by
  have htitle := d.title.length_text_le_share .title
  have hdescription := d.description.length_text_le_share .description
  have htag := d.tag.length_text_le_share .tag
  simp only [size, share, PerSection.total, PerSection.ofFn, PerSection.get]
  omega

end Draft

namespace Release

def size (r : Release) : ℕ :=
  (r.map String.length).total

theorem length_cleanText_le (s : String) : (cleanText s).length ≤ s.length := by
  rw [cleanText, String.length_ofList, ← String.length_toList]
  exact (length_trim_le _).trans (Marker.length_erase_le _)

theorem size_clean_le (r : Release) : r.clean.size ≤ r.size := by
  apply PerSection.total_le_total
  intro kind
  rw [clean, PerSection.get_map, PerSection.get_map, PerSection.get_map]
  exact length_cleanText_le _

end Release

theorem Draft.size_finish_le (d : Draft) : d.finish.size ≤ d.size := by
  apply PerSection.total_le_total
  intro kind
  rw [finish, PerSection.get_map, PerSection.get_ofFn, PerSection.get_ofFn, String.length_ofList]
  exact Escape.length_decodeChars_le _

namespace Template

theorem size_draft_le (text : String) : (draft text).size ≤ text.length := by
  have hshare := Draft.start.share_foldl_feed_le (lines text)
  have hstart : Draft.start.share = 0 := rfl
  have hsize := (draft text).size_le_share
  -- the line end that the last line does not have is made up for by a token
  rw [← draft, hstart, lines, room_splitOn, String.length_toList] at hshare
  omega

theorem size_parse_le (text : String) : (parse text).size ≤ text.length :=
  (draft text).size_finish_le.trans (size_draft_le text)

theorem size_release_le (text : String) : (release text).size ≤ text.length :=
  (parse text).size_clean_le.trans (size_parse_le text)

/-- The sections of a template have no more characters together than the template, before and after
cleaning. Whatever has been read, a line changes one section at most. If it opens the section, that
has no more characters than the line; otherwise a part of the line is put behind the text of the
section, with one separator. Decoding and cleaning make nothing longer. -/
theorem size_le_and_feed_gains :
    (∀ text, (parse text).size ≤ text.length ∧ (release text).size ≤ text.length) ∧
    (∀ (read : List (List Char)) (raw : List Char), let d := read.foldl Draft.feed Draft.start
      d.feed raw = d ∨ ∃ kind slot, d.feed raw = d.set kind slot ∧
        (d.get kind = .idle ∧ (slot.text kind).length ≤ raw.length ∨
          ∃ texts part, d.get kind = .collecting texts ∧ part <:+: raw ∧
            slot.text kind = (d.get kind).text kind ++ Slot.addition kind part ∧
            (Slot.addition kind part).length ≤ raw.length + 1)) ∧
    ∀ s, (Escape.decode s).length ≤ s.length ∧ (Release.cleanText s).length ≤ s.length := by
  refine ⟨fun text ↦ ⟨size_parse_le text, size_release_le text⟩, fun read raw ↦ ?_,
    fun s ↦ ⟨Escape.length_decode_le s, Release.length_cleanText_le s⟩⟩
  intro d
  have hfilled : d.IsFilled := Draft.isFilled_foldl_feed read
  refine (d.feed_cases raw).imp_right ?_
  rintro ⟨kind, slot, hset, hgains⟩
  exact ⟨kind, slot, hset, hgains.text_cases (hfilled kind)⟩

end Template

end Bulletin
