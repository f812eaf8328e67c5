import Bulletin.Proofs.FileTree.Join
import Bulletin.Proofs.Text.Lines

namespace Bulletin.Path

variable {path above segment name : String} {parent : Location} {front parts : List String}

theorem slash_not_mem_of_mem_segments (h : segment ∈ segments path) : '/' ∉ segment.toList := by
  obtain ⟨part, hpart, rfl⟩ := List.mem_map.mp h
  rw [String.toList_ofList]
  exact Text.not_mem_of_mem_splitOn hpart

theorem segments_slashed (hne : front ≠ []) (h : ∀ segment ∈ front, '/' ∉ segment.toList) :
    segments (slashed front) = front := by
  have hparts : ∀ part ∈ front.map String.toList, '/' ∉ part := by
    intro part hpart
    obtain ⟨segment, hs, rfl⟩ := List.mem_map.mp hpart
    exact h segment hs
  rw [segments, slashed, String.toList_intercalate]
  change ((['/'].intercalate (front.map String.toList)).splitOn '/').map String.ofList = front
  rw [List.splitOn_intercalate '/' hparts (by simpa using hne), List.map_map]
  exact (List.map_congr_left (fun s _ ↦ String.ofList_toList)).trans (List.map_id _)

theorem slash_slashed (hne : parts ≠ []) : "/" ++ slashed parts = slashed ("" :: parts) := by
  rw [slashed, slashed, String.intercalate_cons_of_ne_nil hne, String.empty_append]

theorem withoutIdleEnd_isPrefix (segments : List String) :
    withoutIdleEnd segments <+: segments := by
  rw [withoutIdleEnd, ← List.reverse_suffix, List.reverse_reverse]
  exact List.dropWhile_suffix isIdle

theorem withoutIdleEnd_dropLast_isPrefix (segments : List String) :
    withoutIdleEnd (withoutIdleEnd segments).dropLast <+: segments :=
  ((withoutIdleEnd_isPrefix _).trans (List.dropLast_prefix _)).trans (withoutIdleEnd_isPrefix _)

theorem foldl_follow_eq (hup : ".." ∉ parts) (here : Location) :
    parts.foldl follow here = here ++ parts.filter (!isIdle ·) := by
  induction parts generalizing here with
  | nil => rw [List.foldl_nil, List.filter_nil, List.append_nil]
  | cons part parts ih =>
    obtain ⟨hne, hup⟩ := not_or.mp (List.mem_cons.not.mp hup)
    rw [List.foldl_cons, ih hup]
    by_cases hi : isIdle part
    · simp [follow_of_isIdle hi, hi]
    · simp [follow_of_name hi (Ne.symm hne), hi]

theorem location_eq_filter (hup : ".." ∉ segments path) :
    location path = (segments path).filter (!isIdle ·) :=
  foldl_follow_eq hup []

theorem goesDown_location (hup : ".." ∉ segments path) :
    ∀ name ∈ location path, ¬isIdle name ∧ name ≠ ".." := by
  intro name hname
  rw [location_eq_filter hup] at hname
  obtain ⟨hsegment, hi⟩ := List.mem_filter.mp hname
  exact ⟨by simpa using hi, fun h ↦ hup (h ▸ hsegment)⟩

theorem filter_withoutIdleEnd (parts : List String) :
    (withoutIdleEnd parts).filter (!isIdle ·) = parts.filter (!isIdle ·) := by
  have hdrop (parts : List String) :
      (parts.dropWhile isIdle).filter (!isIdle ·) = parts.filter (!isIdle ·) := by
    induction parts with
    | nil => rfl
    | cons part parts ih =>
      by_cases hi : isIdle part
      · rw [List.dropWhile_cons_of_pos hi, ih, List.filter_cons_of_neg (by simpa using hi)]
      · rw [List.dropWhile_cons_of_neg hi]
  rw [withoutIdleEnd, List.filter_reverse, hdrop, List.filter_reverse, List.reverse_reverse]

theorem withoutIdleEnd_cases (parts : List String) :
    withoutIdleEnd parts = [] ∨ ∃ front last, withoutIdleEnd parts = front ++ [last] ∧
      ¬isIdle last := by
  rcases List.eq_nil_or_concat' (withoutIdleEnd parts) with hnil | ⟨front, last, hsplit⟩
  · exact Or.inl hnil
  · refine Or.inr ⟨front, last, hsplit, ?_⟩
    have hfirst := List.head?_dropWhile_not isIdle parts.reverse
    have hhead : (parts.reverse.dropWhile isIdle).head? = some last := by
      rw [← List.getLast?_reverse, ← withoutIdleEnd, hsplit, List.getLast?_concat]
    rw [hhead] at hfirst
    simpa using hfirst

theorem filter_filter_isEmpty (parts : List String) :
    (parts.filter (!·.isEmpty)).filter (!isIdle ·) = parts.filter (!isIdle ·) := by
  rw [List.filter_filter]
  refine List.filter_congr (fun part _ ↦ ?_)
  cases hpart : part.isEmpty <;> simp [isIdle, hpart]

theorem location_eq_filter_named (hup : ".." ∉ segments path) :
    location path = (named path).filter (!isIdle ·) := by
  rw [location_eq_filter hup, named, filter_filter_isEmpty]

theorem toList_slashed (parts : List String) :
    (slashed parts).toList = ['/'].intercalate (parts.map String.toList) :=
  String.toList_intercalate

theorem slashed_segments (path : String) : slashed (segments path) = path := by
  have hparts : (segments path).map String.toList = path.toList.splitOn '/' := by
    rw [segments, List.map_map]
    exact (List.map_congr_left (fun _ _ ↦ String.toList_ofList)).trans (List.map_id _)
  rw [← String.toList_inj, toList_slashed, hparts, List.intercalate_splitOn]

theorem slashed_isPrefix {others : List String} (h : parts <+: others) :
    (slashed parts).toList <+: (slashed others).toList := by
  obtain ⟨more, rfl⟩ := h
  rw [toList_slashed, toList_slashed, List.map_append]
  exact Text.intercalate_isPrefix _ _ _

theorem named_slashed (hne : front ≠ []) (hpre : front <+: segments path) :
    (slashed front).toList <+: path.toList ∧ named (slashed front) = front.filter (!·.isEmpty) := by
  constructor
  · have hbegins := slashed_isPrefix hpre
    rwa [slashed_segments] at hbegins
  · rw [named, segments_slashed hne]
    exact fun segment hs ↦ slash_not_mem_of_mem_segments (hpre.subset hs)

theorem named_slash_slashed (hpath : segments path = "" :: parts) (hne : parts ≠ [])
    (hpre : front <+: parts) : ("/" ++ slashed front).toList <+: path.toList ∧
      named ("/" ++ slashed front) = front.filter (!·.isEmpty) := by
  constructor
  · rw [← slashed_segments path, hpath, ← slash_slashed hne, String.toList_append,
      String.toList_append, List.prefix_append_right_inj]
    exact slashed_isPrefix hpre
  · rcases eq_or_ne front [] with rfl | hfront
    · decide
    · have hrooted : "" :: front <+: segments path := by
        rw [hpath]
        exact (List.prefix_cons_inj "").mpr hpre
      rw [slash_slashed hfront, (named_slashed (List.cons_ne_nil _ _) hrooted).2]
      rfl

theorem parent?_cases (h : parent? path = some above) :
    above.toList <+: path.toList ∧ ∃ first others, segments path = first :: others ∧
      (withoutIdleEnd others = [] ∧ named above = [] ∨
        withoutIdleEnd others ≠ [] ∧ named above =
          (first :: withoutIdleEnd (withoutIdleEnd others).dropLast).filter (!·.isEmpty)) := by
  rw [parent?] at h
  split at h
  · cases h
  rename_i first others hpath
  have hpre := withoutIdleEnd_dropLast_isPrefix others
  suffices hparts : above.toList <+: path.toList ∧ (withoutIdleEnd others = [] ∧ named above = [] ∨
      withoutIdleEnd others ≠ [] ∧ named above =
        (first :: withoutIdleEnd (withoutIdleEnd others).dropLast).filter (!·.isEmpty)) from
    ⟨hparts.1, first, others, hpath, hparts.2⟩
  dsimp only at h
  generalize withoutIdleEnd (withoutIdleEnd others).dropLast = rest at h hpre ⊢
  split at h
  · cases h
  split at h
  · rename_i hfirst
    obtain rfl := String.isEmpty_iff.mp hfirst
    split at h
    · cases h
    rename_i hnamed
    cases h
    have hne : withoutIdleEnd others ≠ [] := by simpa using hnamed
    have hothers : others ≠ [] := by
      rintro rfl
      exact hne rfl
    obtain ⟨hbegins, hparts⟩ := named_slash_slashed hpath hothers hpre
    exact ⟨hbegins, Or.inr ⟨hne, hparts⟩⟩
  · split at h
    · rename_i hnamed
      cases h
      exact ⟨List.nil_prefix, Or.inl ⟨by simpa using hnamed, by decide⟩⟩
    · rename_i hnamed
      cases h
      have hfront : first :: rest <+: segments path := by
        rw [hpath]
        exact (List.prefix_cons_inj first).mpr hpre
      obtain ⟨hbegins, hparts⟩ := named_slashed (List.cons_ne_nil _ _) hfront
      exact ⟨hbegins, Or.inr ⟨by simpa using hnamed, hparts⟩⟩

theorem named_of_parent? (h : parent? path = some above) : named above <+: named path := by
  obtain ⟨-, first, others, hpath, ⟨-, hnil⟩ | ⟨-, hnamed⟩⟩ := parent?_cases h
  · rw [hnil]
    exact List.nil_prefix
  · rw [hnamed, named, hpath]
    refine List.IsPrefix.filter _ ?_
    rw [List.prefix_cons_inj]
    exact withoutIdleEnd_dropLast_isPrefix others

theorem up_not_mem_of_named (hup : ".." ∉ segments path) (h : named above <+: named path) :
    ".." ∉ segments above := by
  intro hm
  have hnamed : ".." ∈ named above := List.mem_filter.mpr ⟨hm, by decide⟩
  exact hup (List.mem_of_mem_filter (h.subset hnamed))

theorem up_not_mem_parent? (hup : ".." ∉ segments path) (h : parent? path = some above) :
    ".." ∉ segments above :=
  up_not_mem_of_named hup (named_of_parent? h)

/-- The parent of a path leads to where the last name on the way of the path is looked for. -/
theorem location_parent? (hup : ".." ∉ segments path) (h : parent? path = some above) :
    location above = (location path).dropLast := by
  have habove := location_eq_filter_named (up_not_mem_parent? hup h)
  obtain ⟨-, first, others, hpath, hparts⟩ := parent?_cases h
  rw [location_eq_filter hup, hpath]
  have hothers := filter_withoutIdleEnd others
  rcases hparts with ⟨hidle, hnil⟩ | ⟨hne, hnamed⟩
  · rw [hidle] at hothers
    rw [habove, hnil, List.filter_cons, ← hothers]
    split <;> rfl
  · obtain ⟨front, last, hsplit, hlast⟩ := (withoutIdleEnd_cases others).resolve_left hne
    have hfull : (first :: others).filter (!isIdle ·) =
        (first :: front).filter (!isIdle ·) ++ [last] := by
      rw [List.filter_cons, List.filter_cons, ← hothers, hsplit]
      cases hfirst : isIdle first <;> simp [hlast]
    rw [habove, hnamed, filter_filter_isEmpty, hfull, hsplit, List.dropLast_concat,
      List.dropLast_concat, List.filter_cons, List.filter_cons, filter_withoutIdleEnd]

theorem exists_parent? (hup : ".." ∉ segments path) (hne : location path ≠ []) :
    ∃ above, parent? path = some above := by
  rw [location_eq_filter hup] at hne
  rw [parent?]
  split
  · rename_i hpath
    rw [hpath] at hne
    exact absurd rfl hne
  · rename_i first others hpath
    rw [hpath] at hne
    dsimp only
    split
    · rename_i hempty
      obtain rfl := String.isEmpty_iff.mp hempty
      have hsegments : segments "" = [""] := by decide
      rw [hsegments] at hpath
      rw [← hpath] at hne
      exact absurd rfl hne
    · split
      · rename_i hfirst
        split
        · rename_i hidle
          have hothers := filter_withoutIdleEnd others
          rw [List.isEmpty_iff.mp hidle] at hothers
          refine absurd ?_ hne
          rw [List.filter_cons_of_neg (by simp [isIdle, hfirst]), ← hothers]
          rfl
        · exact ⟨_, rfl⟩
      · split
        · exact ⟨_, rfl⟩
        · exact ⟨_, rfl⟩

theorem IsSound.parent? (hs : IsSound path) (h : Path.parent? path = some above)
    (hne : above ≠ "") : IsSound above := by
  obtain ⟨⟨rest, hrest⟩, -⟩ := parent?_cases h
  have hpath : above ++ String.ofList rest = path := by
    rw [← String.toList_inj, String.toList_append, String.toList_ofList, hrest]
  refine ⟨fun hnul ↦ hs.1 ?_, hne, Nat.le_trans ?_ hs.2.2⟩
  · rw [← hrest]
    exact List.mem_append_left rest hnul
  · rw [← hpath, String.utf8ByteSize_append]
    exact Nat.le_add_right _ _

theorem length_parent?_lt (hup : ".." ∉ segments path) (hne : location path ≠ [])
    (h : Path.parent? path = some above) : above.length < path.length := by
  obtain ⟨hbegins, -⟩ := parent?_cases h
  rw [← String.length_toList, ← String.length_toList]
  refine Nat.lt_of_le_of_ne hbegins.length_le (fun hlength ↦ ?_)
  obtain rfl := String.toList_inj.mp (hbegins.eq_of_length hlength)
  have hshorter := congrArg List.length (location_parent? hup h)
  have hpos := List.length_pos_iff.mpr hne
  rw [List.length_dropLast] at hshorter
  omega

/-- The last part of a path names where it leads to, unless that is where it starts. -/
def EndsPlainly (path : String) : Prop :=
  ∀ last ∈ (named path).getLast?, isIdle last → location path = []

theorem endsPlainly_parent? (hup : ".." ∉ segments path) (h : Path.parent? path = some above) :
    EndsPlainly above := by
  have hlocation := location_eq_filter_named (up_not_mem_parent? hup h)
  obtain ⟨-, first, others, -, ⟨-, hnil⟩ | ⟨-, hnamed⟩⟩ := parent?_cases h
  · intro last hlast
    rw [hnil] at hlast
    cases hlast
  · rw [hnamed] at hlocation
    intro last hlast hidle
    rw [hnamed] at hlast
    rcases withoutIdleEnd_cases (withoutIdleEnd others).dropLast with
      hrest | ⟨front, final, hrest, hfinal⟩
    · rw [hrest] at hlast hlocation
      have hfirst : isIdle first := by
        rw [List.filter_cons] at hlast
        split at hlast
        · cases hlast
          exact hidle
        · cases hlast
      rw [hlocation, filter_filter_isEmpty, List.filter_cons_of_neg (by simpa using hfirst)]
      rfl
    · have hkept : [final].filter (!·.isEmpty) = [final] := by
        rw [isIdle, Bool.or_eq_true, not_or, Bool.not_eq_true] at hfinal
        simp [hfinal.1]
      rw [hrest, ← List.cons_append, List.filter_append, hkept, List.getLast?_concat] at hlast
      cases hlast
      exact absurd hidle hfinal

theorem endsPlainly_join (path : String) (h : IsName name) : EndsPlainly (join path name) := by
  intro last hlast hidle
  rw [named_join path h, List.getLast?_concat] at hlast
  cases hlast
  exact absurd hidle h.2.1

theorem withoutIdleEnd_concat (front : List String) (h : ¬isIdle name) :
    withoutIdleEnd (front ++ [name]) = front ++ [name] := by
  rw [withoutIdleEnd, List.reverse_concat, List.dropWhile_cons_of_neg h, List.reverse_cons,
    List.reverse_reverse]

theorem segments_join_of_name (hlast : (segments path).getLast? = some segment)
    (hidle : ¬isIdle segment) (h : IsName name) :
    segments (join path name) = segments path ++ [name] := by
  obtain ⟨parts, hparts, hsame | hempty⟩ := segments_join path h.1
  · rw [hparts, hsame]
  · rw [hempty, List.getLast?_concat] at hlast
    cases hlast
    exact absurd rfl hidle

theorem parent?_join (hlast : (segments path).getLast? = some segment) (hidle : ¬isIdle segment)
    (h : IsName name) : parent? (join path name) = some path := by
  obtain ⟨front, hfront⟩ := List.getLast?_eq_some_iff.mp hlast
  have hjoin := segments_join_of_name hlast hidle h
  have hne : ¬(join path name).isEmpty := by simpa using join_ne_empty path h
  obtain ⟨first, rest, hpath, hrest, hfirst⟩ : ∃ first rest, segments path = first :: rest ∧
      withoutIdleEnd rest = rest ∧ (first.isEmpty → rest ≠ []) := by
    cases front with
    | nil => exact ⟨segment, [], hfront, rfl, fun hempty ↦ absurd (by simp [isIdle, hempty]) hidle⟩
    | cons first front =>
      exact ⟨first, front ++ [segment], hfront, withoutIdleEnd_concat front hidle,
        fun _ ↦ List.concat_ne_nil _ _⟩
  have htext := slashed_segments path
  have hnamed : ¬(rest ++ [name]).isEmpty := by simp
  rw [hpath] at htext
  rw [parent?, hjoin, hpath, List.cons_append]
  dsimp only
  rw [if_neg hne, withoutIdleEnd_concat rest h.2.1, List.dropLast_concat, hrest, if_neg hnamed,
    if_neg hnamed, htext]
  split
  · rename_i hempty
    rw [slash_slashed (hfirst hempty), ← String.isEmpty_iff.mp hempty, htext]
  · rfl

theorem named_eq_concat {parent : Location} (hup : ".." ∉ segments path) (hends : EndsPlainly path)
    (hlocation : location path = parent ++ [name]) :
    ∃ front, named path = front ++ [name] ∧ front.filter (!isIdle ·) = parent := by
  have hfilter := location_eq_filter_named hup
  rcases List.eq_nil_or_concat' (named path) with hnil | ⟨front, last, hnamed⟩
  · rw [hnil, hlocation] at hfilter
    cases List.append_eq_nil_iff.mp hfilter |>.2
  · have hlast : ¬isIdle last := by
      intro hidle
      have hnil := hends last (by rw [hnamed, List.getLast?_concat]; rfl) hidle
      rw [hlocation] at hnil
      exact List.concat_ne_nil _ _ hnil
    rw [hnamed, hlocation, List.filter_append, List.filter_cons_of_pos (by simpa using hlast),
      List.filter_nil] at hfilter
    obtain ⟨hparent, hname⟩ := List.append_inj' hfilter rfl
    cases hname
    exact ⟨front, hnamed, hparent.symm⟩

end Bulletin.Path
