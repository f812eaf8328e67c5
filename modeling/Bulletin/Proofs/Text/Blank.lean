import Bulletin.Text.Blank
import Mathlib.Data.List.TakeWhile

namespace Bulletin.Text

variable {s t : List Char}

theorem trimEnd_eq (s : List Char) : trimEnd s = (trimStart s.reverse).reverse :=
  rfl

theorem exists_trimEnd_append (s : List Char) : ∃ b, (∀ c ∈ b, isBlank c) ∧ s = trimEnd s ++ b := by
  refine ⟨(s.reverse.takeWhile isBlank).reverse, ?_, ?_⟩
  · intro c hc
    exact List.mem_takeWhile_imp (List.mem_reverse.mp hc)
  · rw [trimEnd, ← List.reverse_append, List.takeWhile_append_dropWhile, List.reverse_reverse]

theorem trimEnd_isPrefix (s : List Char) : trimEnd s <+: s := by
  obtain ⟨b, -, hs⟩ := exists_trimEnd_append s
  exact ⟨b, hs.symm⟩

theorem trimStart_isSuffix (s : List Char) : trimStart s <:+ s :=
  List.dropWhile_suffix _

theorem trim_isInfix (s : List Char) : trim s <:+: s :=
  (trimEnd_isPrefix _).isInfix.trans (trimStart_isSuffix s).isInfix

theorem length_trim_le (s : List Char) : (trim s).length ≤ s.length :=
  (trim_isInfix s).length_le

theorem trim_eq_self_of_length (h : s.length ≤ (trim s).length) : trim s = s :=
  (trim_isInfix s).eq_of_length (Nat.le_antisymm (length_trim_le s) h)

theorem trimStart_append_of_blank (hs : ∀ c ∈ s, isBlank c) (t : List Char) :
    trimStart (s ++ t) = trimStart t :=
  List.dropWhile_append_of_pos hs

theorem trim_blank_append (hs : ∀ c ∈ s, isBlank c) (t : List Char) : trim (s ++ t) = trim t := by
  rw [trim, trimStart_append_of_blank hs, trim]

theorem trimEnd_append_of_blank (s : List Char) (ht : ∀ c ∈ t, isBlank c) :
    trimEnd (s ++ t) = trimEnd s := by
  rw [trimEnd_eq, List.reverse_append,
    trimStart_append_of_blank (fun c hc ↦ ht c (List.mem_reverse.mp hc)), trimEnd_eq]

theorem trimStart_append (s : List Char) (ht : trimStart t = t) :
    trimStart (s ++ t) = trimStart s ++ t := by
  rw [trimStart, List.dropWhile_append]
  split
  · rename_i he
    rw [trimStart, List.isEmpty_iff.mp he]
    exact ht
  · rfl

theorem trimEnd_append (hs : trimEnd s = s) (t : List Char) :
    trimEnd (s ++ t) = s ++ trimEnd t := by
  have hr : trimStart s.reverse = s.reverse := by
    rw [← List.reverse_inj, ← trimEnd_eq, hs, List.reverse_reverse]
  rw [trimEnd_eq, List.reverse_append, trimStart_append _ hr, List.reverse_append,
    List.reverse_reverse, ← trimEnd_eq]

theorem trimStart_append_of_ne_nil (hs : trimStart s = s) (hne : s ≠ []) (t : List Char) :
    trimStart (s ++ t) = s ++ t := by
  rw [trimStart] at hs ⊢
  rw [List.dropWhile_append, hs, if_neg (by simpa using hne)]

theorem trimEnd_append_of_ne_nil (s : List Char) (ht : trimEnd t = t) (hne : t ≠ []) :
    trimEnd (s ++ t) = s ++ t := by
  have hr : trimStart t.reverse = t.reverse := by
    rw [← List.reverse_inj, ← trimEnd_eq, ht, List.reverse_reverse]
  rw [trimEnd_eq, List.reverse_append, trimStart_append_of_ne_nil hr (by simpa using hne),
    ← List.reverse_append, List.reverse_reverse]

theorem trimStart_of_not_blank (hs : ∀ c ∈ s, ¬isBlank c) : trimStart s = s := by
  cases s with
  | nil => rfl
  | cons c s => exact List.dropWhile_cons_of_neg (hs c List.mem_cons_self)

theorem trimEnd_of_not_blank (hs : ∀ c ∈ s, ¬isBlank c) : trimEnd s = s := by
  rw [trimEnd_eq, trimStart_of_not_blank (fun c hc ↦ hs c (List.mem_reverse.mp hc)),
    List.reverse_reverse]

theorem trimStart_trimStart (s : List Char) : trimStart (trimStart s) = trimStart s :=
  List.dropWhile_eq_self_iff.mpr (List.dropWhile_get_zero_not isBlank s)

@[simp]
theorem trim_trimStart (s : List Char) : trim (trimStart s) = trim s := by
  rw [trim, trimStart_trimStart, trim]

@[simp]
theorem trim_trimEnd (s : List Char) : trim (trimEnd s) = trim s := by
  obtain ⟨b, hb, hs⟩ := exists_trimEnd_append s
  have hblank : trimStart b = [] := List.dropWhile_eq_nil_iff.mpr hb
  conv => rhs; rw [hs]
  rw [trim, trim, trimStart, trimStart, List.dropWhile_append]
  split
  · rename_i he
    rw [List.isEmpty_iff.mp he, ← trimStart, hblank]
  · rw [trimEnd_append_of_blank _ hb]

theorem trim_append_blank (s : List Char) (ht : ∀ c ∈ t, isBlank c) : trim (s ++ t) = trim s := by
  rw [← trim_trimEnd, trimEnd_append_of_blank s ht, trim_trimEnd]

@[simp]
theorem trim_trim (s : List Char) : trim (trim s) = trim s :=
  (trim_trimEnd (trimStart s)).trans (trim_trimStart s)

def IsTrimmed (s : List Char) : Prop :=
  (∀ c ∈ s.head?, ¬isBlank c) ∧ ∀ c ∈ s.getLast?, ¬isBlank c

theorem not_isBlank_of_mem_head?_dropWhile {c : Char} (h : c ∈ (s.dropWhile isBlank).head?) :
    ¬isBlank c := by
  have hfirst := List.head?_dropWhile_not isBlank s
  rw [Option.mem_def.mp h] at hfirst
  simpa using hfirst

theorem isTrimmed_trim (s : List Char) : IsTrimmed (trim s) := by
  constructor
  · intro c hc
    obtain ⟨rest, hrest⟩ := trimEnd_isPrefix (trimStart s)
    apply not_isBlank_of_mem_head?_dropWhile (s := s)
    rw [trim, Option.mem_def] at hc
    rw [← trimStart, ← hrest, List.head?_append, hc]
    exact Option.mem_some_self c
  · intro c hc
    rw [trim, trimEnd, List.getLast?_reverse] at hc
    exact not_isBlank_of_mem_head?_dropWhile hc

theorem trim_append_append (s : List Char) {m : List Char} (hstart : trimStart m = m)
    (hend : trimEnd m = m) (hne : m ≠ []) (t : List Char) :
    trim (s ++ m ++ t) = trimStart s ++ m ++ trimEnd t := by
  rw [trim, List.append_assoc, trimStart_append _ (trimStart_append_of_ne_nil hstart hne t),
    ← List.append_assoc, trimEnd_append (trimEnd_append_of_ne_nil _ hend hne)]

end Bulletin.Text
