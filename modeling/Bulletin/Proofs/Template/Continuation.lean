import Bulletin.Proofs.Template.Draft
import Bulletin.Proofs.Text.Lines

namespace Bulletin

variable {d : Draft} {kind : Section} {slot slot' slot'' : Slot} {line : List Char}

namespace Slot

/-- What a section can become while more lines are read: lines are only added, and what has ended
stays as it is. -/
inductive Continues : Slot → Slot → Prop
  | idle (slot : Slot) : Continues .idle slot
  | collecting (lines more : List (List Char)) :
      Continues (.collecting lines) (.collecting (more ++ lines))
  | ended (lines more : List (List Char)) : Continues (.collecting lines) (.done (more ++ lines))
  | done (lines : List (List Char)) : Continues (.done lines) (.done lines)

namespace Continues

theorem refl (slot : Slot) : slot.Continues slot := by
  cases slot with
  | idle => exact .idle _
  | collecting lines => exact .collecting lines []
  | done lines => exact .done lines

theorem trans (h : slot.Continues slot') (h' : slot'.Continues slot'') :
    slot.Continues slot'' := by
  cases h with
  | idle => exact .idle _
  | collecting lines more =>
    cases h' with
    | collecting _ most =>
      rw [← List.append_assoc]
      exact .collecting lines (most ++ more)
    | ended _ most =>
      rw [← List.append_assoc]
      exact .ended lines (most ++ more)
  | ended lines more =>
    cases h'
    exact .ended lines more
  | done lines => exact h'

theorem of_take? (h : slot.take? kind line = some slot') : slot.Continues slot' := by
  cases slot with
  | idle => exact .idle _
  | collecting lines =>
    rw [take?, Option.some_inj, close] at h
    split at h
    · exact h ▸ .ended lines [_]
    · exact h ▸ .collecting lines [_]
  | done lines => cases h

theorem text_isPrefix (h : slot.Continues slot') (kind : Section) :
    slot.text kind <+: slot'.text kind := by
  have hmore (lines more : List (List Char)) :
      (Slot.done lines).text kind <+: (Slot.done (more ++ lines)).text kind := by
    cases kind with
    | description =>
      simp only [text, Slot.lines, List.reverse_append, List.flatMap_append]
      exact List.prefix_append _ _
    | title =>
      simp only [text, Slot.lines, List.reverse_append]
      exact Text.intercalate_isPrefix _ _ _
    | tag =>
      simp only [text, Slot.lines, List.reverse_append]
      exact Text.intercalate_isPrefix _ _ _
  cases h with
  | idle =>
    have hnil : Slot.idle.text kind = [] := by cases kind <;> rfl
    rw [hnil]
    exact List.nil_prefix
  | collecting lines more => exact hmore lines more
  | ended lines more => exact hmore lines more
  | done lines => exact List.prefix_rfl

end Continues

end Slot

namespace Draft

theorem continues_feed (d : Draft) (raw : List Char) (kind : Section) :
    (d.get kind).Continues ((d.feed raw).get kind) := by
  rw [feed_eq_offer]
  rcases offer_cases d (Text.trim raw) with hsame | ⟨taker, slot, htake, hset⟩
  · rw [hsame]
    exact .refl _
  · rw [hset, PerSection.get_set]
    split
    · rename_i htaker
      exact htaker ▸ .of_take? htake
    · exact .refl _

theorem continues_foldl_feed (d : Draft) (lines : List (List Char)) (kind : Section) :
    (d.get kind).Continues ((lines.foldl feed d).get kind) := by
  induction lines generalizing d with
  | nil => exact .refl _
  | cons raw lines ih => exact (d.continues_feed raw kind).trans (ih (d.feed raw))

end Draft

namespace Template

theorem draft_append_newline (p q : String) :
    draft (p ++ "\n" ++ q) = (lines q).foldl Draft.feed (draft p) := by
  have hlines : lines (p ++ "\n" ++ q) = lines p ++ lines q := by
    rw [lines, String.toList_append, String.toList_append, List.append_assoc]
    exact List.splitOn_append_cons_self _ _
  rw [draft, hlines, List.foldl_append, ← draft]

/-- Whatever follows in further lines, a section that has ended is read as before, one that is
being collected only gets longer, and one that has not begun has no text yet. Once all sections have
ended, nothing changes any more. -/
theorem parse_append_newline (p q : String) :
    (∀ kind, match (draft p).get kind with
      | .done _ => (parse (p ++ "\n" ++ q)).get kind = (parse p).get kind
      | .collecting _ =>
        ((draft p).get kind).text kind <+: ((draft (p ++ "\n" ++ q)).get kind).text kind
      | .idle => ((draft p).get kind).text kind = []) ∧
    ((∀ kind, ∃ texts, (draft p).get kind = .done texts) → parse (p ++ "\n" ++ q) = parse p) := by
  have hdone (kind : Section) (texts : List (List Char)) (h : (draft p).get kind = .done texts) :
      (parse (p ++ "\n" ++ q)).get kind = (parse p).get kind := by
    rw [parse, parse, Draft.finish, Draft.finish, PerSection.get_ofFn, PerSection.get_ofFn,
      draft_append_newline, Draft.foldl_feed_done h, h]
  refine ⟨fun kind ↦ ?_, fun hall ↦ PerSection.ext_get (fun kind ↦ ?_)⟩
  · cases h : (draft p).get kind with
    | done texts => exact hdone kind texts h
    | collecting texts =>
      have hcontinues := (draft p).continues_foldl_feed (lines q) kind
      rw [← draft_append_newline, h] at hcontinues
      exact hcontinues.text_isPrefix kind
    | idle => cases kind <;> rfl
  · obtain ⟨texts, h⟩ := hall kind
    exact hdone kind texts h

/-- All sections are opened again, one of them with its token in other cases. -/
theorem parse_append_newline_reopened :
    let p := "TAG: 1//ASYNC_END\nDESCRIPTION: b\nTITLE: a//ASYNC_END\n//ASYNC_END"
    let q := "title: c\nTAG: d//ASYNC_END\nDESCRIPTION: e"
    (∀ kind, ∃ texts, (draft p).get kind = .done texts) ∧ parse (p ++ "\n" ++ q) = parse p := by
  intro p q
  have hall (kind : Section) : ∃ texts, (draft p).get kind = .done texts := by
    cases kind with
    | title => exact ⟨[['a']], by decide +kernel⟩
    | description => exact ⟨[[], ['b']], by decide +kernel⟩
    | tag => exact ⟨[['1']], by decide +kernel⟩
  exact ⟨hall, (parse_append_newline p q).2 hall⟩

end Template

end Bulletin
