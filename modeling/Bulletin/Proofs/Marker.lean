import Bulletin.Marker
import Bulletin.Proofs.Text.Blank
import Bulletin.Proofs.Text.Scan

namespace Bulletin.Marker

open Text

variable {s t w : List Char}

theorem chars_ne_nil : chars ≠ [] := by
  decide

theorem trimStart_chars : trimStart chars = chars := by
  decide

theorem trimEnd_chars : trimEnd chars = chars := by
  decide

theorem not_prefix_drop {k : Nat} (hk : 0 < k) (hl : k < chars.length) :
    ¬chars.drop k <+: chars := by
  have hall : ∀ k < chars.length, 0 < k → ¬chars.drop k <+: chars := by decide
  exact hall k hl hk

/-- A mark does not reach into a text that begins with no end of a mark. -/
theorem prefix_append_iff (ht : ∀ k < chars.length, 0 < k → ¬chars.drop k <+: t) (hne : s ≠ []) :
    chars <+: s ++ t ↔ chars <+: s := by
  refine ⟨fun h ↦ ?_, fun h ↦ h.trans (List.prefix_append s t)⟩
  by_cases hl : chars.length ≤ s.length
  · exact List.prefix_of_prefix_length_le h (List.prefix_append s t) hl
  · obtain ⟨u, hu⟩ := List.prefix_of_prefix_length_le (List.prefix_append s t) h
      (Nat.le_of_not_le hl)
    have hdrop : chars.drop s.length = u := by rw [← hu, List.drop_left]
    rw [← hu, List.prefix_append_right_inj, ← hdrop] at h
    exact absurd h (ht s.length (Nat.lt_of_not_le hl) (List.length_pos_iff.mpr hne))

theorem rule_append {c : Char} (h : chars <+: c :: s ++ t ↔ chars <+: c :: s) :
    rule c (s ++ t) = rule c s := by
  rw [List.cons_append] at h
  simp only [rule, List.isPrefixOf_iff_prefix, h]

theorem rule_fits : Rule.Fits rule := by
  intro c s _ n h
  rw [rule] at h
  split at h
  · rename_i hprefix
    have hlong := (List.isPrefixOf_iff_prefix.mp hprefix).length_le
    rw [List.length_cons] at hlong
    obtain ⟨-, rfl⟩ := Prod.mk.inj (Option.some.inj h)
    omega
  · cases h

theorem scan_of_unmarked (hs : ¬chars <:+: s) : scan rule s = s.map .plain := by
  apply scan_eq_map_plain
  intro c u hsuffix
  rw [rule_eq_none_iff]
  exact fun hbegins ↦ hs (hbegins.isInfix.trans hsuffix.isInfix)

theorem scan_chars_append (t : List Char) :
    scan rule (chars ++ t) = .found () :: scan rule t := by
  have hchars : chars = '/' :: chars.tail := by decide
  have hrule : rule '/' (chars.tail ++ t) = some ((), chars.length - 1) := by
    rw [rule_eq_some_iff, ← List.cons_append, ← hchars]
    exact List.prefix_append chars t
  have hdrop : (chars.tail ++ t).drop (chars.length - 1) = t := by
    rw [← List.length_tail, List.drop_left]
  rw [hchars, List.cons_append, scan_cons_of_eq_some hrule, hdrop]

/-- A mark is found wherever it stands, and does not change what is found around it. -/
theorem scan_append_chars (s t : List Char) :
    scan rule (s ++ (chars ++ t)) = scan rule s ++ .found () :: scan rule t := by
  have hfree : ∀ k < chars.length, 0 < k → ¬chars.drop k <+: chars ++ t := by
    intro k hl hk h
    apply not_prefix_drop hk hl
    apply List.prefix_of_prefix_length_le h (List.prefix_append chars t)
    exact (List.drop_suffix k chars).length_le
  rw [← scan_chars_append]
  apply Text.scan_append rule_fits
  intro c u _
  exact rule_append (prefix_append_iff hfree (List.cons_ne_nil c u))

theorem scan_append (hs : ¬chars <:+: s) (t : List Char) :
    scan rule (s ++ (chars ++ t)) = s.map .plain ++ .found () :: scan rule t := by
  rw [scan_append_chars, scan_of_unmarked hs]

theorem erase_cons_plain {c : Char} (h : ¬chars <+: c :: s) :
    erase (c :: s) = c :: erase s := by
  rw [erase, scan_cons_of_eq_none (rule_eq_none_iff.mpr h)]
  rfl

theorem erase_chars_append (t : List Char) : erase (chars ++ t) = erase t := by
  rw [erase, scan_chars_append]
  rfl

/-- Erasing goes on behind a character that begins no mark, or behind a mark. -/
@[elab_as_elim]
theorem erase_induction {motive : List Char → Prop} (nil : motive [])
    (plain : ∀ c s, ¬chars <+: c :: s → motive s → motive (c :: s))
    (mark : ∀ s, motive s → motive (chars ++ s)) (s : List Char) : motive s := by
  induction s using scan_induction rule with
  | nil => exact nil
  | plain c s hr ih => exact plain c s (rule_eq_none_iff.mp hr) ih
  | found c s b n hr ih =>
    rw [rule] at hr
    split at hr
    · rename_i hprefix
      obtain ⟨-, rfl⟩ := Prod.mk.inj (Option.some.inj hr)
      obtain ⟨rest, hrest⟩ := List.isPrefixOf_iff_prefix.mp hprefix
      have hdrop : s.drop (chars.length - 1) = rest := by
        change (c :: s).drop chars.length = rest
        rw [← hrest, List.drop_left]
      rw [← hrest]
      exact mark rest (hdrop ▸ ih)
    · cases hr

theorem filterMap_plain? (s : List Char) :
    (s.map (Piece.plain : Char → Piece Unit)).filterMap Piece.plain? = s := by
  rw [List.filterMap_map]
  exact List.filterMap_some

theorem occursIn_of_unmarked (hs : ¬chars <:+: s) : occursIn s = false := by
  rw [occursIn, scan_of_unmarked hs]
  simp [Piece.isFound]

theorem occursIn_iff : occursIn s ↔ chars <:+: s := by
  refine ⟨fun h ↦ ?_, fun h ↦ ?_⟩
  · by_contra hs
    rw [occursIn_of_unmarked hs] at h
    cases h
  · induction s with
    | nil => exact absurd (List.infix_nil.mp h) chars_ne_nil
    | cons c s ih =>
      by_cases hc : chars <+: c :: s
      · rw [occursIn, scan_cons_of_eq_some (rule_eq_some_iff.mpr hc)]
        rfl
      · have hs := (List.infix_cons_iff.mp h).resolve_left hc
        rw [occursIn, scan_cons_of_eq_none (rule_eq_none_iff.mpr hc), List.any_cons]
        exact Bool.or_eq_true_iff.mpr (Or.inr (ih hs))

theorem infix_trim_iff : chars <:+: trim s ↔ chars <:+: s := by
  refine ⟨fun h ↦ h.trans (trim_isInfix s), ?_⟩
  rintro ⟨a, b, rfl⟩
  rw [trim_append_append a trimStart_chars trimEnd_chars chars_ne_nil]
  exact ⟨trimStart a, trimEnd b, rfl⟩

theorem erase_of_unmarked (hs : ¬chars <:+: s) : erase s = s := by
  rw [erase, scan_of_unmarked hs, filterMap_plain?]

theorem occursIn_append (hs : ¬chars <:+: s) (t : List Char) : occursIn (s ++ chars ++ t) := by
  rw [occursIn, List.append_assoc, scan_append hs]
  simp [Piece.isFound]

theorem before_of_unmarked (hs : ¬chars <:+: s) : before s = s := by
  have hplain : ∀ piece ∈ s.map (Piece.plain : Char → Piece Unit), !piece.isFound := by
    simp [Piece.isFound]
  rw [before, scan_of_unmarked hs, List.takeWhile_eq_self_iff.mpr hplain, filterMap_plain?]

theorem before_append (hs : ¬chars <:+: s) (t : List Char) : before (s ++ chars ++ t) = s := by
  have hplain : ∀ piece ∈ s.map (Piece.plain : Char → Piece Unit), !piece.isFound := by
    simp [Piece.isFound]
  rw [before, List.append_assoc, scan_append hs, List.takeWhile_append_of_pos hplain,
    List.takeWhile_cons_of_neg (by simp [Piece.isFound]), List.append_nil, filterMap_plain?]

theorem erase_append_chars (hs : ¬chars <:+: s) : erase (s ++ chars) = s := by
  have h := scan_append hs []
  rw [List.append_nil] at h
  rw [erase, h, List.filterMap_append, filterMap_plain?]
  simp [Piece.plain?]

theorem unmarked_append (hw : '/' ∉ w) (hs : ¬chars <:+: s) : ¬chars <:+: w ++ s := by
  induction w with
  | nil => exact hs
  | cons c w ih =>
    rw [List.mem_cons, not_or] at hw
    rw [List.cons_append, List.infix_cons_iff, not_or]
    refine ⟨?_, ih hw.2⟩
    intro h
    have hchars : chars = '/' :: chars.tail := by decide
    rw [hchars, List.cons_prefix_cons] at h
    exact hw.1 h.1

theorem rule_append_of_not_mem (ht : ∀ c ∈ t, c ∉ chars) (c : Char) (s : List Char) :
    rule c (s ++ t) = rule c s := by
  cases t with
  | nil => rw [List.append_nil]
  | cons d t =>
    have hd : d ∉ chars := ht d List.mem_cons_self
    exact rule_append ⟨prefix_of_append_cons hd,
      fun h ↦ h.trans (List.prefix_append (c :: s) (d :: t))⟩

theorem erase_append_of_not_mem (ht : ∀ c ∈ t, c ∉ chars) (s : List Char) :
    erase (s ++ t) = erase s ++ t := by
  have hslash : '/' ∉ t := fun hm ↦ ht _ hm (by decide)
  have hclear : ¬chars <:+: t := by
    simpa using unmarked_append hslash (fun h ↦ chars_ne_nil (List.infix_nil.mp h))
  rw [erase, Text.scan_append rule_fits (fun c u _ ↦ rule_append_of_not_mem ht c u),
    List.filterMap_append, ← erase, ← erase, erase_of_unmarked hclear]

theorem append_erase (h : ∀ c u, c :: u <:+ s → ¬chars <+: c :: u ++ t) :
    erase (s ++ t) = s ++ erase t := by
  induction s with
  | nil => rfl
  | cons c s ih =>
    have hc : ¬chars <+: c :: (s ++ t) := h c s (List.suffix_refl _)
    have hbelow := ih (fun c' u hu ↦ h c' u (hu.trans (List.suffix_cons c s)))
    rw [List.cons_append, erase_cons_plain hc, hbelow, List.cons_append]

theorem append_erase_of_not_mem (hw : '/' ∉ w) (s : List Char) : erase (w ++ s) = w ++ erase s := by
  apply append_erase
  intro c u hu h
  have hchars : chars = '/' :: chars.tail := by decide
  rw [hchars, List.cons_append, List.cons_prefix_cons] at h
  apply hw
  rw [h.1]
  exact hu.subset List.mem_cons_self

theorem not_mem_of_isBlank {c : Char} (hc : isBlank c) : c ∉ chars := by
  have hall : ∀ c ∈ chars, ¬isBlank c := by decide
  exact fun hm ↦ hall c hm hc

theorem trim_erase_append_blank (s : List Char) (ht : ∀ c ∈ t, isBlank c) :
    trim (erase (s ++ t)) = trim (erase s) := by
  rw [erase_append_of_not_mem (fun c hc ↦ not_mem_of_isBlank (ht c hc)), trim_append_blank _ ht]

theorem trim_erase_trim (s : List Char) : trim (erase (trim s)) = trim (erase s) := by
  obtain ⟨b, hb, hs⟩ := exists_trimEnd_append (trimStart s)
  have hblank : ∀ c ∈ s.takeWhile isBlank, isBlank c := fun c hc ↦ List.mem_takeWhile_imp hc
  have hslash : '/' ∉ s.takeWhile isBlank := fun hm ↦ not_mem_of_isBlank (hblank _ hm) (by decide)
  have hmark : ∀ c ∈ b, c ∉ chars := fun c hc ↦ not_mem_of_isBlank (hb c hc)
  have htext : s = s.takeWhile isBlank ++ (trim s ++ b) := by
    rw [trim, ← hs, trimStart, List.takeWhile_append_dropWhile]
  conv => rhs; rw [htext]
  rw [append_erase_of_not_mem hslash, trim_blank_append hblank, erase_append_of_not_mem hmark,
    trim_append_blank _ hb]

theorem exists_first (h : chars <:+: s) : ∃ a b, ¬chars <:+: a ∧ s = a ++ (chars ++ b) := by
  induction s with
  | nil => exact absurd (List.infix_nil.mp h) chars_ne_nil
  | cons c s ih =>
    by_cases hc : chars <+: c :: s
    · obtain ⟨b, hb⟩ := hc
      exact ⟨[], b, fun hn ↦ chars_ne_nil (List.infix_nil.mp hn), hb.symm⟩
    · obtain ⟨a, b, ha, rfl⟩ := ih ((List.infix_cons_iff.mp h).resolve_left hc)
      refine ⟨c :: a, b, ?_, rfl⟩
      rw [List.infix_cons_iff, not_or]
      exact ⟨fun hp ↦ hc (hp.trans (List.prefix_append (c :: a) _)), ha⟩

theorem length_erase_le (s : List Char) : (erase s).length ≤ s.length :=
  (List.length_filterMap_le _ _).trans (length_scan_le rule s)

theorem erase_append_chars_append (s t : List Char) :
    erase (s ++ (chars ++ t)) = erase s ++ erase t := by
  rw [erase, scan_append_chars, List.filterMap_append]
  rfl

theorem length_erase_of_marked (h : chars <:+: s) :
    (erase s).length + chars.length ≤ s.length := by
  obtain ⟨a, b, rfl⟩ := h
  have ha := length_erase_le a
  have hb := length_erase_le b
  rw [List.append_assoc, erase_append_chars_append]
  simp only [List.length_append]
  omega

theorem before_isPrefix (s : List Char) : before s <+: s := by
  by_cases h : chars <:+: s
  · obtain ⟨a, b, ha, rfl⟩ := exists_first h
    rw [← List.append_assoc, before_append ha, List.append_assoc]
    exact List.prefix_append a (chars ++ b)
  · rw [before_of_unmarked h]

theorem length_before_of_marked (h : chars <:+: s) :
    (before s).length + chars.length ≤ s.length := by
  obtain ⟨a, b, ha, rfl⟩ := exists_first h
  rw [← List.append_assoc, before_append ha]
  simp only [List.length_append]
  omega

end Bulletin.Marker
