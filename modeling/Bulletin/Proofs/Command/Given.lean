import Bulletin.Command.Line
import Mathlib.Data.List.Nodup

namespace Bulletin.Command

namespace Given

/-- No setting is made twice, and no path is empty. -/
def IsSound (given : Given) : Prop :=
  (given.map Prod.fst).Nodup ∧ ∀ option ∈ given, option.1.isPath → option.2 ≠ ""

instance (given : Given) : Decidable given.IsSound :=
  inferInstanceAs (Decidable (_ ∧ _))

def makeAll (given : Given) (options : Given) : Except Stop Given :=
  options.foldlM (fun given option ↦ given.make option.1 option.2) given

variable {given options : Given} {setting : Setting} {value : String}

theorem isSound_nil : IsSound [] :=
  ⟨List.nodup_nil, List.forall_mem_nil _⟩

theorem IsSound.perm {given' : Given} (h : given.IsSound) (hp : given.Perm given') :
    given'.IsSound :=
  ⟨(hp.map Prod.fst).nodup_iff.mp h.1, fun option ho ↦ h.2 option (hp.mem_iff.mpr ho)⟩

theorem IsSound.sublist {given' : Given} (h : given.IsSound) (hs : given'.Sublist given) :
    given'.IsSound :=
  ⟨h.1.sublist (hs.map Prod.fst), fun option ho ↦ h.2 option (hs.mem ho)⟩

theorem isSound_cons_iff : IsSound ((setting, value) :: given) ↔
    (setting ∉ given.map Prod.fst ∧ (setting.isPath → value ≠ "")) ∧ given.IsSound := by
  rw [IsSound, IsSound, List.map_cons, List.nodup_cons, List.forall_mem_cons]
  tauto

theorem lookup_eq_some_iff_mem (h : given.IsSound) :
    given.lookup setting = some value ↔ (setting, value) ∈ given := by
  induction given with
  | nil => simp
  | cons option given ih =>
    obtain ⟨first, text⟩ := option
    obtain ⟨⟨hfirst, -⟩, hgiven⟩ := isSound_cons_iff.mp h
    rw [List.lookup_cons, List.mem_cons, Prod.mk.injEq]
    by_cases he : setting = first
    · subst he
      have hnot : (setting, value) ∉ given := fun hm ↦ hfirst (List.mem_map_of_mem hm)
      simp [hnot, eq_comm]
    · have hne : (setting == first) = false := beq_eq_false_iff_ne.mpr he
      rw [hne, ih hgiven, or_iff_right fun h ↦ he h.1]

theorem lookup_eq_none_iff_not_mem :
    given.lookup setting = none ↔ setting ∉ given.map Prod.fst := by
  simp only [List.lookup_eq_none_iff, List.mem_map, bne_iff_ne, not_exists, not_and]
  exact forall₂_congr fun option _ ↦ ne_comm

theorem lookup_perm {given' : Given} (h : given.IsSound) (hp : given.Perm given')
    (setting : Setting) : given.lookup setting = given'.lookup setting := by
  apply Option.ext
  intro value
  rw [lookup_eq_some_iff_mem h, lookup_eq_some_iff_mem (h.perm hp), hp.mem_iff]

theorem make_eq (h : given.IsSound) (setting : Setting) (value : String) :
    given.make setting value =
      if IsSound ((setting, value) :: given) then .ok ((setting, value) :: given)
      else .error .usage := by
  have hiff : IsSound ((setting, value) :: given) ↔
      ¬((given.lookup setting).isSome || (setting.isPath && value.isEmpty)) = true := by
    rw [isSound_cons_iff, and_iff_left h, ← lookup_eq_none_iff_not_mem,
      ← Option.not_isSome_iff_eq_none, Bool.or_eq_true, Bool.and_eq_true, String.isEmpty_iff,
      not_or, not_and]
  rw [make]
  simp only [hiff, ite_not]

theorem makeAll_of_isSound (h : IsSound (options.reverse ++ given)) :
    given.makeAll options = .ok (options.reverse ++ given) := by
  induction options generalizing given with
  | nil => rfl
  | cons option options ih =>
    rw [List.reverse_cons, List.append_assoc, List.singleton_append] at h ⊢
    have hmade := h.sublist (List.sublist_append_right options.reverse _)
    have hgiven := hmade.sublist (List.sublist_cons_self option given)
    rw [makeAll, List.foldlM_cons, make_eq hgiven, if_pos hmade, ← ih h]
    rfl

theorem makeAll_of_not_isSound (hgiven : given.IsSound) (h : ¬IsSound (options.reverse ++ given)) :
    given.makeAll options = .error .usage := by
  induction options generalizing given with
  | nil => exact absurd hgiven h
  | cons option options ih =>
    rw [List.reverse_cons, List.append_assoc, List.singleton_append] at h
    rw [makeAll, List.foldlM_cons, make_eq hgiven]
    split
    · rename_i hmade
      rw [← ih hmade h]
      rfl
    · rfl

theorem makeAll_nil (options : Given) :
    makeAll [] options = if options.IsSound then .ok options.reverse else .error .usage := by
  have hp : (options.reverse ++ []).Perm options := by
    rw [List.append_nil]
    exact List.reverse_perm options
  split
  · rename_i h
    rw [makeAll_of_isSound (h.perm hp.symm), List.append_nil]
  · rename_i h
    exact makeAll_of_not_isSound isSound_nil (fun hs ↦ h (hs.perm hp))

end Given

end Bulletin.Command
