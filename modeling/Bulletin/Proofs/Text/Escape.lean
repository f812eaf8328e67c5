import Bulletin.Proofs.Text.Scan
import Bulletin.Proofs.Text.Sequence

namespace Bulletin.Escape

open Text

variable {c : Char} {s t meant : List Char} {n : ℕ}

theorem sequence?_bounds (h : sequence? s = some (meant, n)) :
    meant.length ≤ 1 ∧ 0 < n ∧ n ≤ s.length := by
  rcases sequence?_eq_some_iff.mp h with
    ⟨hbegins, rfl, rfl⟩ | ⟨c, letter, -, hbegins, rfl, rfl⟩ | h | h
  · exact ⟨Nat.zero_le 1, Nat.one_pos, hbegins.length_le⟩
  · exact ⟨Nat.le_refl 1, Nat.one_pos, hbegins.length_le⟩
  · obtain ⟨hne, c, -, rfl, rfl⟩ := octal?_eq_some_iff.mp h
    exact ⟨Nat.le_refl 1, List.length_pos_iff.mpr hne, (octalDigits_isPrefix s).length_le⟩
  · obtain ⟨letter, digits, c, hbegins, -, -, rfl, rfl⟩ := hex?_eq_some_iff.mp h
    exact ⟨Nat.le_refl 1, Nat.succ_pos _, hbegins.length_le⟩

theorem rule_bounds (h : rule c s = some (meant, n)) :
    meant.length ≤ 1 ∧ 0 < n ∧ n ≤ s.length := by
  rw [rule] at h
  split at h
  · exact sequence?_bounds h
  · cases h

theorem decodeChars_of_none (h : rule c s = none) :
    decodeChars (c :: s) = c :: decodeChars s := by
  rw [decodeChars, scan_cons_of_eq_none h, render_plain, decodeChars]

theorem decodeChars_of_some (h : rule c s = some (meant, n)) :
    decodeChars (c :: s) = meant ++ decodeChars (s.drop n) := by
  rw [decodeChars, scan_cons_of_eq_some h, render_found, id, decodeChars]

theorem rule_newline (h : rule c ['\n'] = some (meant, n)) : meant = [] := by
  rw [rule] at h
  split at h
  · cases h
    rfl
  · cases h

/-- An escape in a text makes it shorter, even without a newline at its end: where it takes that
newline, the backslash goes with it. -/
theorem shorter_of_rule (ht : t = [] ∨ t = ['\n']) (hr : rule c (s ++ t) = some (meant, n))
    (ih : ∀ u, u ++ t = (s ++ t).drop n → decodeChars (u ++ t) = u ++ t ∨
      ∃ x e, decodeChars (u ++ t) = x ++ e ∧ e <:+ t ∧ x.length < u.length) :
    ∃ x e, decodeChars (c :: (s ++ t)) = x ++ e ∧ e <:+ t ∧ x.length < (c :: s).length := by
  obtain ⟨hmeant, hpos, hlong⟩ := rule_bounds hr
  rw [decodeChars_of_some hr, List.length_cons]
  by_cases hn : n ≤ s.length
  · have hdrop : s.drop n ++ t = (s ++ t).drop n := (List.drop_append_of_le_length hn).symm
    have hrest : (s.drop n).length = s.length - n := List.length_drop
    rw [← hdrop]
    rcases ih (s.drop n) hdrop with h | ⟨x, e, h, he, hx⟩
    · refine ⟨meant ++ s.drop n, t, by rw [h, List.append_assoc], List.suffix_refl t, ?_⟩
      rw [List.length_append]
      omega
    · refine ⟨meant ++ x, e, by rw [h, List.append_assoc], he, ?_⟩
      rw [List.length_append]
      omega
  · obtain rfl : t = ['\n'] := by
      refine ht.resolve_left ?_
      rintro rfl
      rw [List.append_nil] at hlong
      exact hn hlong
    have hdrop : (s ++ ['\n']).drop n = [] := by
      rw [List.drop_eq_nil_iff, List.length_append, List.length_singleton]
      omega
    refine ⟨meant, [], by rw [hdrop, decodeChars_nil], List.nil_suffix, ?_⟩
    cases s with
    | nil => simp [rule_newline hr]
    | cons _ s =>
      rw [List.length_cons]
      omega

theorem decodeChars_append_cases (ht : t = [] ∨ t = ['\n']) (s : List Char) :
    decodeChars (s ++ t) = s ++ t ∨
      ∃ x e, decodeChars (s ++ t) = x ++ e ∧ e <:+ t ∧ x.length < s.length := by
  generalize hu : s ++ t = u
  induction u using scan_induction rule generalizing s with
  | nil => exact Or.inl rfl
  | plain c u hr ih =>
    rw [decodeChars_of_none hr]
    cases s with
    | nil =>
      rcases ht with rfl | rfl
      · cases hu
      · obtain ⟨rfl, rfl⟩ := List.cons.inj hu
        exact Or.inl rfl
    | cons first s =>
      rw [List.cons_append] at hu
      obtain ⟨rfl, rfl⟩ := List.cons.inj hu
      rcases ih s rfl with h | ⟨x, e, h, he, hx⟩
      · exact Or.inl (by rw [h])
      · refine Or.inr ⟨first :: x, e, by rw [h, List.cons_append], he, ?_⟩
        simpa using hx
  | found c u meant n hr ih =>
    cases s with
    | nil =>
      rcases ht with rfl | rfl
      · cases hu
      · obtain ⟨rfl, rfl⟩ := List.cons.inj hu
        cases hr
    | cons first s =>
      rw [List.cons_append] at hu
      obtain ⟨rfl, rfl⟩ := List.cons.inj hu
      exact Or.inr (shorter_of_rule ht hr (fun v hv ↦ hv ▸ ih v hv))

theorem decode_eq_self_iff (s : String) : decode s = s ↔ decodeChars s.toList = s.toList := by
  rw [← String.toList_inj, toList_decode]

end Bulletin.Escape
