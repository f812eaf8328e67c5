import Bulletin.Proofs.Template.Nesting
import Bulletin.Proofs.Text.Lines
import Mathlib.Order.WellFounded

namespace Bulletin

open Text

variable {d : Draft} {kind : Section} {line raw : List Char} {slot slot' : Slot}
  {texts : List (List Char)}

theorem Section.eq_or_precedes (kind other : Section) :
    kind = other ∨ kind.Precedes other ∨ other.Precedes kind := by
  cases kind <;> cases other <;> decide

namespace Slot

inductive Phase
  | idle
  | collecting
  | done
  deriving DecidableEq, Repr

def phase : Slot → Phase
  | idle => .idle
  | collecting _ => .collecting
  | done _ => .done

def IsFilled (slot : Slot) : Prop :=
  slot.lines? ≠ some []

theorem isFilled_close (line : List Char) (texts : List (List Char)) (first : List Char) :
    (close line (first :: texts)).IsFilled := by
  rw [IsFilled, lines?_close]
  simp

theorem isFilled_of_take? (h : slot.take? kind line = some slot') : slot'.IsFilled := by
  cases slot with
  | idle =>
    obtain ⟨rest, -, rfl⟩ := Option.map_eq_some_iff.mp h
    exact isFilled_close line [] _
  | collecting lines => exact Option.some.inj h ▸ isFilled_close line lines _
  | done lines => cases h

theorem take?_eq_none_iff : slot.take? kind line = none ↔
    slot.isCollecting = false ∧ (slot = .idle → ¬kind.Opens line) := by
  cases slot with
  | idle =>
    refine ⟨fun h ↦ ⟨rfl, fun _ ⟨word, rest, hword, hline⟩ ↦ ?_⟩, fun h ↦ take?_idle (h.2 rfl)⟩
    rw [take?, hline, Section.opening?_append hword] at h
    cases h
  | collecting lines => simp [take?, isCollecting]
  | done lines => simp [take?, isCollecting]

/-- What a further line adds to the text of a section. -/
def addition (kind : Section) (line : List Char) : List Char :=
  match kind with
  | .description => line ++ ['\n']
  | .title | .tag => ' ' :: line

theorem addition_ne_nil (kind : Section) (line : List Char) : addition kind line ≠ [] := by
  cases kind <;> simp [addition]

theorem text_of_lines_cons (hne : slot.lines ≠ []) (h : slot'.lines = line :: slot.lines)
    (kind : Section) : slot'.text kind = slot.text kind ++ addition kind line := by
  have hreverse : slot.lines.reverse ≠ [] := by simpa using hne
  have hwords : [' '].intercalate (slot.lines.reverse ++ [line]) =
      [' '].intercalate slot.lines.reverse ++ ' ' :: line := by
    rw [intercalate_append [' '] hreverse (List.cons_ne_nil line []), List.intercalate_singleton,
      List.singleton_append]
  cases kind with
  | title => rw [text, text, h, List.reverse_cons, hwords, addition]
  | description =>
    rw [text, text, h, List.reverse_cons, List.flatMap_append, List.flatMap_singleton, addition]
  | tag => rw [text, text, h, List.reverse_cons, hwords, addition]

/-- A section that takes a line has come further or has more text. -/
theorem phase_ne_or_text_ne (hfilled : slot.IsFilled) (h : slot.take? kind line = some slot') :
    slot'.phase ≠ slot.phase ∨ slot'.text kind ≠ slot.text kind := by
  cases slot with
  | idle =>
    obtain ⟨rest, -, rfl⟩ := Option.map_eq_some_iff.mp h
    refine Or.inl ?_
    rw [close]
    split <;> exact Phase.noConfusion
  | collecting texts =>
    rw [take?, Option.some_inj] at h
    have hlines : ∃ first, slot'.lines = first :: texts := by
      rw [← h, lines_eq_getD, lines?_close]
      exact ⟨_, rfl⟩
    obtain ⟨first, hfirst⟩ := hlines
    have hne : (collecting texts).lines ≠ [] := by
      intro hnil
      exact hfilled (congrArg some hnil)
    refine Or.inr ?_
    rw [text_of_lines_cons hne hfirst]
    simpa using addition_ne_nil kind first
  | done texts => cases h

end Slot

namespace Draft

/-- What the reader of a template keeps of each section: how far it has come and its text so far. -/
def state (d : Draft) : PerSection (Slot.Phase × List Char) :=
  .ofFn fun kind ↦ ((d.get kind).phase, (d.get kind).text kind)

def feedAny (d : Draft) (raw : List Char) : Draft :=
  d.offer (trim raw)

theorem isCollecting_eq_false_iff :
    d.isCollecting = false ↔ ∀ kind, (d.get kind).isCollecting = false := by
  refine ⟨not_isCollecting_get, fun h ↦ ?_⟩
  rw [isCollecting, PerSection.toList_eq_map_get, List.any_map, List.any_eq_false]
  intro kind _
  simp [h kind]

def IsFilled (d : Draft) : Prop :=
  ∀ kind, (d.get kind).IsFilled

theorem isFilled_start : start.IsFilled := by
  intro kind
  cases kind <;> exact (Option.some_ne_none _).symm

theorem IsFilled.feed (h : d.IsFilled) (raw : List Char) : (d.feed raw).IsFilled := by
  rw [feed_eq_offer]
  rcases offer_cases d (trim raw) with hsame | ⟨taker, slot, htake, hset⟩
  · rwa [hsame]
  · intro kind
    rw [hset, PerSection.get_set]
    split
    · exact Slot.isFilled_of_take? htake
    · exact h kind

theorem isFilled_foldl_feed (read : List (List Char)) : (read.foldl feed start).IsFilled := by
  induction read using List.reverseRecOn with
  | nil => exact isFilled_start
  | append_singleton read raw ih =>
    rw [List.foldl_append]
    exact ih.feed raw

theorem state_feed_eq_iff (h : d.IsFilled) (raw : List Char) : (d.feed raw).state = d.state ↔
    ∀ kind, (d.get kind).take? kind (trim raw) = none := by
  rw [feed_eq_offer]
  refine ⟨fun hstate ↦ by_contra (fun hnone ↦ ?_), fun hnone ↦ by rw [offer_eq_self hnone]⟩
  obtain ⟨taker, slot, htake, hset⟩ := exists_offer_eq_set hnone
  have hsame : (slot.phase, slot.text taker) =
      ((d.get taker).phase, (d.get taker).text taker) := by
    simpa [state, hset] using congrArg (PerSection.get · taker) hstate
  rcases Slot.phase_ne_or_text_ne (h taker) htake with hphase | htext
  · exact hphase (congrArg Prod.fst hsame)
  · exact htext (congrArg Prod.snd hsame)

theorem take?_eq_none_iff : (∀ kind, (d.get kind).take? kind line = none) ↔
    d.isCollecting = false ∧ ∀ kind, d.get kind = .idle → ¬kind.Opens line := by
  rw [isCollecting_eq_false_iff, ← forall_and]
  exact forall_congr' (fun _ ↦ Slot.take?_eq_none_iff)

theorem exists_first_collecting (h : d.isCollecting) : ∃ top texts,
    d.get top = .collecting texts ∧
    ∀ other, (d.get other).isCollecting → other = top ∨ top.Precedes other := by
  obtain ⟨kind, hkind⟩ : ∃ kind, (d.get kind).isCollecting := by
    by_contra hnone
    have hclosed := isCollecting_eq_false_iff.mpr
      (fun kind ↦ Bool.eq_false_iff.mpr (not_exists.mp hnone kind))
    exact Bool.false_ne_true (hclosed.symm.trans h)
  obtain ⟨top, htop, hfirst⟩ := (measure (Section.all.idxOf ·)).wf.has_min
    {kind | (d.get kind).isCollecting} ⟨kind, hkind⟩
  have hrest (other : Section) (ho : (d.get other).isCollecting) :
      other = top ∨ top.Precedes other :=
    (Section.eq_or_precedes other top).imp_right (·.resolve_left (hfirst other ho))
  have hopen : (d.get top).isCollecting := htop
  cases hslot : d.get top with
  | collecting texts => exact ⟨top, texts, hslot, hrest⟩
  | idle => simp [hslot, Slot.isCollecting] at hopen
  | done texts => simp [hslot, Slot.isCollecting] at hopen

theorem feed_comment (hcomment : isComment (trim raw)) (h : d.isCollecting) : ∃ top texts,
    d.get top = .collecting texts ∧
    (∀ other, (d.get other).isCollecting → other = top ∨ top.Precedes other) ∧
    d.feed raw = d.set top (Slot.close (trim raw) (trim (Marker.before (trim raw)) :: texts)) := by
  obtain ⟨top, texts, htop, hfirst⟩ := exists_first_collecting h
  refine ⟨top, texts, htop, hfirst, feed_of_collecting htop hfirst (fun other _ _ ↦ ?_)⟩
  exact not_opens_of_isComment hcomment other

end Draft

namespace Template

/-- The sections of a template if no line is passed over as a comment. -/
def parseAny (text : String) : Release :=
  ((lines text).foldl Draft.feedAny Draft.start).finish

theorem parseAny_eq_parse (text : String) : parseAny text = parse text := by
  have hfeed : Draft.feedAny = Draft.feed := by
    funext d raw
    exact (d.feed_eq_offer raw).symm
  rw [parseAny, hfeed, parse, draft]

/-- Whether lines that look like comments are passed over makes no difference. Whatever has been
read before, a line leaves no trace exactly if no section is open and it opens none that has not
been opened yet; so a comment is passed over outside of all sections, and is text of the first
section that is open otherwise. -/
theorem parseAny_eq_parse_and_state_feed :
    (∀ text, parseAny text = parse text) ∧
    ∀ (read : List (List Char)) (raw : List Char), let d := read.foldl Draft.feed Draft.start
      ((d.feed raw).state = d.state ↔
        d.isCollecting = false ∧ ∀ kind, d.get kind = .idle → ¬kind.Opens (trim raw)) ∧
      (Draft.isComment (trim raw) → ((d.feed raw).state = d.state ↔ d.isCollecting = false) ∧
        (d.isCollecting → ∃ top texts, d.get top = .collecting texts ∧
          (∀ other, (d.get other).isCollecting → other = top ∨ top.Precedes other) ∧
          d.feed raw =
            d.set top (Slot.close (trim raw) (trim (Marker.before (trim raw)) :: texts)))) := by
  refine ⟨parseAny_eq_parse, fun read raw ↦ ?_⟩
  have hstate := (Draft.state_feed_eq_iff (Draft.isFilled_foldl_feed read) raw).trans
    Draft.take?_eq_none_iff
  refine ⟨hstate, fun hcomment ↦ ⟨?_, Draft.feed_comment hcomment⟩⟩
  rw [hstate]
  exact and_iff_left (fun kind _ ↦ Draft.not_opens_of_isComment hcomment kind)

/-- A comment where two sections are open, the first of which has the token of the second one in its
text. -/
theorem parseAny_eq_parse_and_state_feed_nested :
    let read := ["TAG: 1".toList, "TITLE: a".toList, "tag: b".toList]
    let raw := " # c//ASYNC_END d".toList
    let d := read.foldl Draft.feed Draft.start
    Draft.isComment (trim raw) ∧ d.isCollecting ∧ (d.feed raw).state ≠ d.state ∧
      d.feed raw = d.set .title (.done [['#', ' ', 'c'], "tag: b".toList, ['a']]) := by
  intro read raw d
  have hcomment : Draft.isComment (trim raw) := by decide +kernel
  have hopen : d.isCollecting := by decide +kernel
  obtain ⟨-, hread⟩ := parseAny_eq_parse_and_state_feed
  obtain ⟨hstate, -⟩ := (hread read raw).2 hcomment
  refine ⟨hcomment, hopen, fun hsame ↦ ?_, by decide +kernel⟩
  exact Bool.false_ne_true ((hstate.mp hsame).symm.trans hopen)

end Template

end Bulletin
