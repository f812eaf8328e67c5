import Bulletin.Proofs.Marker
import Bulletin.Proofs.Text.Lines
import Bulletin.Template.Draft

namespace Bulletin

open Text

namespace Marker

variable {p s t u w : List Char} {parts : List (List Char)}

/-- A mark that is cut into parts, with a whole mark behind each part but the last. -/
def IsNested (w : List Char) : Prop :=
  ∃ parts : List (List Char), parts.flatten = chars ∧ chars ∉ parts ∧ w = chars.intercalate parts

/-- What a text without its marks begins with has been put together from parts of the beginning of
the text, with the marks between them. -/
theorem exists_parts_of_prefix (h : u <+: erase s) :
    ∃ parts : List (List Char), parts ≠ [] ∧ parts.flatten = u ∧
      (∀ part ∈ parts, ¬chars <:+: part) ∧ chars.intercalate parts <+: s := by
  have hunmarked : ¬chars <:+: [] := fun h ↦ chars_ne_nil (List.infix_nil.mp h)
  have hempty (s : List Char) : ∃ parts : List (List Char), parts ≠ [] ∧ parts.flatten = [] ∧
      (∀ part ∈ parts, ¬chars <:+: part) ∧ chars.intercalate parts <+: s :=
    ⟨[[]], List.cons_ne_nil _ _, rfl, by simpa using hunmarked, List.nil_prefix⟩
  induction s using erase_induction generalizing u with
  | nil =>
    obtain rfl := List.prefix_nil.mp h
    exact hempty []
  | plain c s hc ih =>
    rw [erase_cons_plain hc] at h
    cases u with
    | nil => exact hempty (c :: s)
    | cons d u =>
      obtain ⟨rfl, hu⟩ := List.cons_prefix_cons.mp h
      obtain ⟨parts, hne, rfl, hparts, hprefix⟩ := ih hu
      obtain ⟨part, parts, rfl⟩ := List.exists_cons_of_ne_nil hne
      obtain ⟨hpart, hparts⟩ := List.forall_mem_cons.mp hparts
      have hlonger : chars.intercalate ((d :: part) :: parts) <+: d :: s := by
        have hjoin := intercalate_append_cons chars [d] part parts
        rw [List.singleton_append] at hjoin
        rw [hjoin]
        exact List.cons_prefix_cons.mpr ⟨rfl, hprefix⟩
      have hfirst : d :: part <+: d :: s := by
        have hjoin := intercalate_append_cons chars (d :: part) [] parts
        rw [List.append_nil] at hjoin
        exact List.IsPrefix.trans ⟨_, hjoin.symm⟩ hlonger
      refine ⟨(d :: part) :: parts, List.cons_ne_nil _ _, rfl, ?_, hlonger⟩
      rw [List.forall_mem_cons, List.infix_cons_iff, not_or]
      exact ⟨⟨fun hbegins ↦ hc (hbegins.trans hfirst), hpart⟩, hparts⟩
  | mark s ih =>
    rw [erase_chars_append] at h
    obtain ⟨parts, hne, hflatten, hparts, hprefix⟩ := ih h
    obtain ⟨part, parts, rfl⟩ := List.exists_cons_of_ne_nil hne
    refine ⟨[] :: part :: parts, List.cons_ne_nil _ _, hflatten, ?_, ?_⟩
    · exact List.forall_mem_cons.mpr ⟨hunmarked, hparts⟩
    · rw [List.intercalate_cons_cons, List.nil_append, List.prefix_append_right_inj]
      exact hprefix

theorem exists_isNested_of_infix_erase (h : chars <:+: erase s) : ∃ w, IsNested w ∧ w <:+: s := by
  induction s using erase_induction with
  | nil => exact absurd (List.infix_nil.mp h) chars_ne_nil
  | plain c s hc ih =>
    by_cases hbegins : chars <+: erase (c :: s)
    · obtain ⟨parts, -, hflatten, hparts, hprefix⟩ := exists_parts_of_prefix hbegins
      refine ⟨chars.intercalate parts, ⟨parts, hflatten, ?_, rfl⟩, hprefix.isInfix⟩
      exact fun hm ↦ hparts _ hm (List.infix_refl _)
    · rw [erase_cons_plain hc] at h hbegins
      obtain ⟨w, hw, hinfix⟩ := ih ((List.infix_cons_iff.mp h).resolve_left hbegins)
      exact ⟨w, hw, hinfix.trans (List.suffix_cons c s).isInfix⟩
  | mark s ih =>
    rw [erase_chars_append] at h
    obtain ⟨w, hw, hinfix⟩ := ih h
    exact ⟨w, hw, hinfix.trans (List.suffix_append chars s).isInfix⟩

theorem unmarked_of_infix_chars (hs : s <:+: chars) (hne : s ≠ chars) : ¬chars <:+: s := by
  intro h
  exact hne (hs.eq_of_length (Nat.le_antisymm hs.length_le h.length_le))

theorem erase_append_of_prefix (hp : p <+: chars) (hne : p ≠ chars) :
    erase (s ++ p) = erase s ++ p := by
  have hfree : ∀ k < chars.length, 0 < k → ¬chars.drop k <+: p :=
    fun k hl hk h ↦ not_prefix_drop hk hl (h.trans hp)
  have hscan : scan rule (s ++ p) = scan rule s ++ scan rule p := by
    apply Text.scan_append rule_fits
    intro c u _
    exact rule_append (prefix_append_iff hfree (List.cons_ne_nil c u))
  have herase : erase p = p := erase_of_unmarked (unmarked_of_infix_chars hp.isInfix hne)
  rw [erase, hscan, List.filterMap_append, ← erase, ← erase, herase]

theorem append_erase_of_suffix (hp : p <:+ chars) (hne : p ≠ chars) (t : List Char) :
    erase (p ++ t) = p ++ erase t := by
  apply append_erase
  intro c u hu h
  have hlt : (c :: u).length < chars.length := by
    refine Nat.lt_of_le_of_lt hu.length_le (Nat.lt_of_le_of_ne hp.length_le ?_)
    exact fun hlength ↦ hne (hp.eq_of_length hlength)
  have hprefix : c :: u <+: chars :=
    List.prefix_of_prefix_length_le (List.prefix_append _ t) h (Nat.le_of_lt hlt)
  have hpos : 0 < chars.length - (c :: u).length := Nat.sub_pos_of_lt hlt
  have hless : chars.length - (c :: u).length < chars.length := by
    rw [List.length_cons] at hlt ⊢
    omega
  rw [List.suffix_iff_eq_drop.mp (hu.trans hp)] at hprefix
  exact not_prefix_drop hpos hless hprefix

theorem erase_intercalate_append (hne : parts ≠ []) (hend : parts.flatten <:+ chars)
    (hwhole : chars ∉ parts) (t : List Char) :
    erase (chars.intercalate parts ++ t) = parts.flatten ++ erase t := by
  induction parts with
  | nil => exact absurd rfl hne
  | cons part parts ih =>
    rw [List.mem_cons, not_or] at hwhole
    cases parts with
    | nil =>
      rw [List.flatten_cons, List.flatten_nil, List.append_nil] at hend ⊢
      rw [List.intercalate_singleton, append_erase_of_suffix hend (Ne.symm hwhole.1)]
    | cons next parts =>
      rw [List.flatten_cons] at hend ⊢
      have hpart : part <:+: chars := (List.prefix_append _ _).isInfix.trans hend.isInfix
      have hrest := ih (List.cons_ne_nil _ _) ((List.suffix_append _ _).trans hend) hwhole.2
      rw [List.intercalate_cons_cons, List.append_assoc, List.append_assoc,
        erase_append_chars_append, hrest,
        erase_of_unmarked (unmarked_of_infix_chars hpart (Ne.symm hwhole.1)), List.append_assoc]

theorem infix_erase_iff : chars <:+: erase s ↔ ∃ w, IsNested w ∧ w <:+: s := by
  refine ⟨exists_isNested_of_infix_erase, ?_⟩
  rintro ⟨w, ⟨parts, hflatten, hwhole, rfl⟩, a, b, rfl⟩
  match parts with
  | [] => exact absurd hflatten.symm chars_ne_nil
  | [part] =>
    rw [List.flatten_cons, List.flatten_nil, List.append_nil] at hflatten
    exact absurd (hflatten ▸ List.mem_cons_self) hwhole
  | part :: next :: parts =>
    rw [List.mem_cons, not_or] at hwhole
    rw [List.flatten_cons] at hflatten
    have hpart : part <+: chars := hflatten ▸ List.prefix_append _ _
    have hend : (next :: parts).flatten <:+ chars := hflatten ▸ List.suffix_append _ _
    have hsplit : a ++ chars.intercalate (part :: next :: parts) ++ b =
        a ++ part ++ (chars ++ (chars.intercalate (next :: parts) ++ b)) := by
      simp [List.intercalate_cons_cons]
    have herase : erase (a ++ chars.intercalate (part :: next :: parts) ++ b) =
        erase a ++ chars ++ erase b := by
      rw [hsplit, erase_append_chars_append, erase_append_of_prefix hpart (Ne.symm hwhole.1),
        erase_intercalate_append (List.cons_ne_nil _ _) hend hwhole.2, ← hflatten]
      simp only [List.append_assoc]
    exact ⟨erase a, erase b, herase.symm⟩

end Marker

namespace Release

theorem toList_cleanText (s : String) :
    (cleanText s).toList = trim (Marker.erase s.toList) :=
  String.toList_ofList

theorem marked_cleanText_iff (s : String) :
    Marker.chars <:+: (cleanText s).toList ↔ ∃ w, Marker.IsNested w ∧ w <:+: s.toList := by
  rw [toList_cleanText, Marker.infix_trim_iff, Marker.infix_erase_iff]

theorem cleanText_eq_self_iff {s : String} (hs : trim s.toList = s.toList) :
    cleanText s = s ↔ ¬Marker.chars <:+: s.toList := by
  rw [← String.toList_inj, toList_cleanText]
  constructor
  · intro hsame hmark
    have hpos := List.length_pos_iff.mpr Marker.chars_ne_nil
    have htrim := length_trim_le (Marker.erase s.toList)
    have herase := Marker.length_erase_of_marked hmark
    rw [hsame] at htrim
    omega
  · intro hclear
    rw [Marker.erase_of_unmarked hclear, hs]

theorem cleanText_cleanText_eq_iff (s : String) :
    cleanText (cleanText s) = cleanText s ↔ ¬∃ w, Marker.IsNested w ∧ w <:+: s.toList := by
  have htrim : trim (cleanText s).toList = (cleanText s).toList := by
    rw [toList_cleanText, trim_trim]
  rw [cleanText_eq_self_iff htrim, marked_cleanText_iff]

theorem clean_eq_iff {r r' : Release} :
    r.clean = r' ↔ ∀ kind, cleanText (r.get kind) = r'.get kind := by
  constructor
  · rintro rfl kind
    exact (PerSection.get_map cleanText r kind).symm
  · intro h
    ext kind
    rw [clean, PerSection.get_map, h]

/-- Cleaning always trims. It leaves a mark in a text, and so has more to do when it is done again,
exactly if the text has a mark somewhere with marks inside it. -/
theorem clean_isTrimmed_and_marked_iff (r : Release) :
    (∀ kind, IsTrimmed (r.clean.get kind).toList ∧
      (Marker.chars <:+: (r.clean.get kind).toList ↔
        ∃ w, Marker.IsNested w ∧ w <:+: (r.get kind).toList)) ∧
    (r.clean.clean = r.clean ↔ ∀ kind, ¬∃ w, Marker.IsNested w ∧ w <:+: (r.get kind).toList) := by
  constructor
  · intro kind
    rw [clean, PerSection.get_map]
    refine ⟨?_, marked_cleanText_iff (r.get kind)⟩
    rw [toList_cleanText]
    exact isTrimmed_trim _
  · rw [clean_eq_iff]
    apply forall_congr'
    intro kind
    rw [clean, PerSection.get_map, cleanText_cleanText_eq_iff]

end Release

/-- The opening line loses its innermost mark when it is read, the title the next one when it is
cleaned, and the third one stays. -/
theorem Template.release_of_nested_marks :
    (parse "TITLE: //ASY//ASY//ASYNC_ENDNC_ENDNC_END").title = "//ASY//ASYNC_ENDNC_END" ∧
    (release "TITLE: //ASY//ASY//ASYNC_ENDNC_ENDNC_END").title = Marker.text ∧
    (release "TITLE: //ASY//ASY//ASYNC_ENDNC_ENDNC_END").clean ≠
      release "TITLE: //ASY//ASY//ASYNC_ENDNC_ENDNC_END" := by
  decide +kernel

end Bulletin
