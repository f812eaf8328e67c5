import Bulletin.Proofs.Marker
import Bulletin.Proofs.Section
import Bulletin.Template.Draft

namespace Bulletin

open Text

variable {d : Draft} {kind : Section} {line raw : List Char} {slot : Slot}

theorem Slot.take?_idle (h : ¬kind.Opens line) : take? kind line idle = none := by
  rw [take?, Section.opening?_eq_none h, Option.map_none]

theorem Slot.take?_eq_none (h : slot.isCollecting = false) (hopens : ¬kind.Opens line) :
    slot.take? kind line = none := by
  cases slot with
  | idle => exact take?_idle hopens
  | collecting lines => cases h
  | done lines => rfl

namespace Draft

theorem offer_eq_set (h : (d.get kind).take? kind line = some slot)
    (hbefore : ∀ other : Section, other.Precedes kind → (d.get other).take? other line = none) :
    d.offer line = d.set kind slot := by
  cases kind with
  | title => simp [offer, Section.all, h]
  | description => simp [offer, Section.all, h, hbefore .title (by decide)]
  | tag =>
    simp [offer, Section.all, h, hbefore .title (by decide), hbefore .description (by decide)]

theorem offer_eq_self (h : ∀ kind, (d.get kind).take? kind line = none) : d.offer line = d := by
  simp [offer, Section.all, h]

theorem exists_offer_eq_set (h : ¬∀ kind, (d.get kind).take? kind line = none) :
    ∃ kind slot, (d.get kind).take? kind line = some slot ∧ d.offer line = d.set kind slot := by
  cases htaken : Section.all.findSome? fun kind ↦
      ((d.get kind).take? kind line).map fun slot ↦ d.set kind slot with
  | none =>
    refine absurd (fun kind ↦ ?_) h
    exact Option.map_eq_none_iff.mp (List.findSome?_eq_none_iff.mp htaken kind kind.mem_all)
  | some taken =>
    obtain ⟨kind, -, hkind⟩ := List.exists_of_findSome?_eq_some htaken
    obtain ⟨slot, hslot, rfl⟩ := Option.map_eq_some_iff.mp hkind
    exact ⟨kind, slot, hslot, by simp only [offer, htaken, Option.getD_some]⟩

theorem offer_cases (d : Draft) (line : List Char) : d.offer line = d ∨
    ∃ kind slot, (d.get kind).take? kind line = some slot ∧ d.offer line = d.set kind slot := by
  by_cases h : ∀ kind, (d.get kind).take? kind line = none
  · exact Or.inl (offer_eq_self h)
  · exact Or.inr (exists_offer_eq_set h)

theorem not_isCollecting_get (h : d.isCollecting = false) (kind : Section) :
    (d.get kind).isCollecting = false := by
  rw [isCollecting, PerSection.toList_eq_map_get, List.any_map, List.any_eq_false] at h
  exact Bool.eq_false_iff.mpr (h kind kind.mem_all)

theorem not_opens_of_isComment (h : isComment line) (kind : Section) : ¬kind.Opens line := by
  rintro ⟨word, rest, hword, rfl⟩
  obtain ⟨c, word, rfl⟩ := List.exists_cons_of_ne_nil hword.ne_nil
  have hhash : '#' ∉ c :: word := hword.not_mem (fun kind ↦ by cases kind <;> decide)
  have hslash := hword.slash_not_mem
  simp only [isComment, commentMarks, List.any_cons, List.any_nil, Bool.or_false,
    Bool.or_eq_true] at h
  rcases h with h | h
  · simp_all
  · simp_all

/-- A line that looks like a comment is not read where no section is open, and there it would not
be taken anyway. -/
theorem feed_eq_offer (d : Draft) (raw : List Char) : d.feed raw = d.offer (trim raw) := by
  rw [feed]
  split
  · rename_i h
    rw [Bool.and_eq_true, Bool.not_eq_true'] at h
    refine (offer_eq_self (fun kind ↦ ?_)).symm
    exact Slot.take?_eq_none (not_isCollecting_get h.1 kind) (not_opens_of_isComment h.2 kind)
  · rfl

variable {texts : List (List Char)}

theorem feed_done (h : d.get kind = .done texts) (raw : List Char) :
    (d.feed raw).get kind = .done texts := by
  rw [feed_eq_offer]
  rcases offer_cases d (trim raw) with hsame | ⟨other, slot, htake, hset⟩
  · rw [hsame, h]
  · have hne : kind ≠ other := by
      rintro rfl
      rw [h] at htake
      cases htake
    rw [hset, PerSection.get_set, if_neg hne, h]

theorem toList_get_clean_finish (d : Draft) (kind : Section) :
    (d.finish.clean.get kind).toList =
      trim (Marker.erase (Escape.decodeChars ((d.get kind).text kind))) := by
  simp [finish, Release.clean, Release.cleanText]

theorem foldl_feed_done (h : d.get kind = .done texts) (lines : List (List Char)) :
    (lines.foldl feed d).get kind = .done texts := by
  induction lines generalizing d with
  | nil => exact h
  | cons raw lines ih => exact ih (feed_done h raw)

end Draft

end Bulletin
