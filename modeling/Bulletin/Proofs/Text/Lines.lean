import Mathlib.Algebra.GroupWithZero.Nat
import Mathlib.Data.List.Infix

namespace Bulletin.Text

variable {c : Char} {s w line : List Char} {lines : List (List Char)}

theorem not_mem_of_mem_splitOn {α : Type} [DecidableEq α] {x : α} {s line : List α}
    (h : line ∈ s.splitOn x) : x ∉ line := by
  induction s generalizing line with
  | nil =>
    rw [List.splitOn_nil, List.mem_singleton] at h
    exact h ▸ List.not_mem_nil
  | cons y s ih =>
    rw [List.splitOn_cons_eq_if_modifyHead] at h
    split at h
    · rcases List.mem_cons.mp h with rfl | h
      · exact List.not_mem_nil
      · exact ih h
    · rename_i hy
      obtain ⟨first, rest, hs⟩ := List.exists_cons_of_ne_nil (List.splitOn_ne_nil x s)
      rw [hs] at h ih
      rcases List.mem_cons.mp h with rfl | h
      · rw [List.mem_cons, not_or]
        exact ⟨fun hx ↦ hy (by simp [hx]), ih List.mem_cons_self⟩
      · exact ih (List.mem_cons_of_mem _ h)

theorem infix_intercalate (h : line ∈ lines) : line <:+: [c].intercalate lines := by
  induction lines with
  | nil => cases h
  | cons first lines ih =>
    cases lines with
    | nil =>
      rw [List.mem_singleton.mp h, List.intercalate_singleton]
    | cons next lines =>
      rw [List.intercalate_cons_cons, List.append_assoc]
      rcases List.mem_cons.mp h with rfl | h
      · exact (List.prefix_append _ _).isInfix
      · exact (ih h).trans ((List.suffix_append _ _).trans (List.suffix_append _ _)).isInfix

theorem infix_of_mem_splitOn (h : line ∈ s.splitOn c) : line <:+: s := by
  have hline := @infix_intercalate c _ _ h
  rwa [List.intercalate_splitOn] at hline

theorem splitOn_append_of_not_mem (hw : c ∉ w) (s : List Char) :
    (w ++ s).splitOn c = (s.splitOn c).modifyHead (w ++ ·) := by
  induction w with
  | nil =>
    rw [List.nil_append]
    cases s.splitOn c <;> rfl
  | cons x w ih =>
    rw [List.mem_cons, not_or] at hw
    have hx : ¬(x == c) = true := by simpa using Ne.symm hw.1
    rw [List.cons_append, List.splitOn_cons_eq_if_modifyHead, if_neg hx, ih hw.2]
    cases s.splitOn c <;> rfl

theorem exists_line_of_infix (hw : c ∉ w) (h : w <:+: s) : ∃ line ∈ s.splitOn c, w <:+: line := by
  obtain ⟨a, b, rfl⟩ := h
  rw [List.append_assoc]
  induction a with
  | nil =>
    obtain ⟨first, rest, hb⟩ := List.exists_cons_of_ne_nil (List.splitOn_ne_nil c b)
    rw [List.nil_append, splitOn_append_of_not_mem hw, hb]
    exact ⟨w ++ first, List.mem_cons_self, (List.prefix_append w first).isInfix⟩
  | cons x a ih =>
    obtain ⟨line, hmem, hline⟩ := ih
    rw [List.cons_append, List.splitOn_cons_eq_if_modifyHead]
    split
    · exact ⟨line, List.mem_cons_of_mem _ hmem, hline⟩
    · obtain ⟨first, rest, hs⟩ := List.exists_cons_of_ne_nil (List.splitOn_ne_nil c (a ++ (w ++ b)))
      rw [hs] at hmem ⊢
      rcases List.mem_cons.mp hmem with rfl | hmem
      · exact ⟨x :: line, List.mem_cons_self, hline.trans (List.suffix_cons x line).isInfix⟩
      · exact ⟨line, List.mem_cons_of_mem _ hmem, hline⟩

/-- The room that lines take, each with its line end. -/
def room (lines : List (List Char)) : Nat :=
  (lines.map (·.length + 1)).sum

theorem room_nil : room [] = 0 :=
  rfl

theorem room_cons (line : List Char) (lines : List (List Char)) :
    room (line :: lines) = line.length + 1 + room lines := by
  rw [room, List.map_cons, List.sum_cons, room]

theorem room_reverse (lines : List (List Char)) : room lines.reverse = room lines := by
  rw [room, List.map_reverse, List.sum_reverse, room]

theorem length_intercalate (c : Char) (hne : lines ≠ []) :
    ([c].intercalate lines).length + 1 = room lines := by
  induction lines with
  | nil => exact absurd rfl hne
  | cons first lines ih =>
    cases lines with
    | nil => rw [List.intercalate_singleton, room_cons, room_nil]
    | cons next lines =>
      have hrest := ih (List.cons_ne_nil next lines)
      rw [List.intercalate_cons_cons, room_cons, ← hrest, List.length_append, List.length_append,
        List.length_singleton]
      omega

theorem room_splitOn (c : Char) (s : List Char) : room (s.splitOn c) = s.length + 1 := by
  rw [← length_intercalate c (List.splitOn_ne_nil c s), List.intercalate_splitOn]

theorem not_mem_intercalate {sep : Char} (hsep : c ≠ sep) (h : ∀ line ∈ lines, c ∉ line) :
    c ∉ [sep].intercalate lines := by
  induction lines with
  | nil => exact List.not_mem_nil
  | cons first lines ih =>
    have hrest := ih (fun line hl ↦ h line (List.mem_cons_of_mem first hl))
    have hfirst := h first List.mem_cons_self
    cases lines with
    | nil => simpa using hfirst
    | cons next lines =>
      rw [List.intercalate_cons_cons]
      simp only [List.mem_append, List.mem_singleton, not_or]
      exact ⟨⟨hfirst, hsep⟩, hrest⟩

theorem intercalate_append_cons (sep w : List Char) (line : List Char)
    (lines : List (List Char)) :
    sep.intercalate ((w ++ line) :: lines) = w ++ sep.intercalate (line :: lines) := by
  cases lines with
  | nil => simp
  | cons next lines => simp [List.intercalate_cons_cons]

theorem intercalate_append {α : Type} {lines more : List (List α)} (sep : List α)
    (hne : lines ≠ []) (hmore : more ≠ []) :
    sep.intercalate (lines ++ more) = sep.intercalate lines ++ (sep ++ sep.intercalate more) := by
  induction lines with
  | nil => exact absurd rfl hne
  | cons first lines ih =>
    cases lines with
    | nil =>
      rw [List.singleton_append, List.intercalate_cons_of_ne_nil hmore,
        List.intercalate_singleton, List.append_assoc]
    | cons next lines =>
      have hrest := ih (List.cons_ne_nil next lines)
      rw [List.cons_append] at hrest
      rw [List.cons_append, List.cons_append, List.intercalate_cons_cons, hrest,
        List.intercalate_cons_cons]
      simp only [List.append_assoc]

theorem intercalate_isPrefix (sep : List Char) (lines more : List (List Char)) :
    sep.intercalate lines <+: sep.intercalate (lines ++ more) := by
  rcases eq_or_ne lines [] with rfl | hne
  · exact List.nil_prefix
  · rcases eq_or_ne more [] with rfl | hmore
    · rw [List.append_nil]
    · rw [intercalate_append sep hne hmore]
      exact List.prefix_append _ _

theorem flatMap_append_eq_intercalate {α : Type} {lines : List (List α)} (sep : List α)
    (hne : lines ≠ []) : lines.flatMap (· ++ sep) = sep.intercalate lines ++ sep := by
  induction lines with
  | nil => exact absurd rfl hne
  | cons first lines ih =>
    cases lines with
    | nil => simp
    | cons next lines =>
      rw [List.flatMap_cons, ih (List.cons_ne_nil next lines), List.intercalate_cons_cons]
      simp only [List.append_assoc]

theorem intercalate_concat {α : Type} (sep : List α) (lines : List (List α)) (last : List α) :
    sep.intercalate (lines ++ [last]) = lines.flatMap (· ++ sep) ++ last := by
  rcases eq_or_ne lines [] with rfl | hne
  · rw [List.nil_append, List.intercalate_singleton, List.flatMap_nil, List.nil_append]
  · rw [intercalate_append sep hne (List.cons_ne_nil last []), List.intercalate_singleton,
      flatMap_append_eq_intercalate sep hne, List.append_assoc]

end Bulletin.Text
