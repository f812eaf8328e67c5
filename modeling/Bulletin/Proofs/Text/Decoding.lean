import Bulletin.Proofs.Text.Escape
import Mathlib.Data.String.Basic

namespace Bulletin.Escape

open Text
open String (utf8Len)

variable {c d : Char} {s a b meant : List Char} {n : ℕ}

instance (s : List Char) : Decidable (IsSequence s) :=
  decidable_of_iff (sequence? s ≠ none) (not_iff_comm.mp sequence?_eq_none_iff.symm)

theorem rule_eq_none_iff : rule c s = none ↔ ¬(c = '\\' ∧ IsSequence s) := by
  rw [rule]
  by_cases hc : c = '\\'
  · rw [if_pos hc, sequence?_eq_none_iff]
    simp [hc]
  · simp [hc]

theorem utf8Size_le_of_lt_pow (hn : 0 < n) (h : c.toNat < 16 ^ n) : c.utf8Size ≤ n := by
  have hfewer {k m : ℕ} (hm : 16 ^ k ≤ m + 1) (hk : ¬k < n) : c.toNat ≤ m :=
    Nat.le_of_lt_succ (Nat.lt_of_lt_of_le h
      ((Nat.pow_le_pow_right (by decide) (Nat.le_of_not_lt hk)).trans hm))
  -- `16 ^ k` is never above the first number that takes `k + 1` bytes
  rw [Char.utf8Size]
  split
  · exact hn
  · rename_i h1
    split
    · exact by_contra (fun hk ↦ h1 (hfewer (k := 1) (by decide) hk))
    · rename_i h2
      split
      · exact by_contra (fun hk ↦ h2 (hfewer (k := 2) (by decide) hk))
      · rename_i h3
        exact by_contra (fun hk ↦ h3 (hfewer (k := 3) (by decide) hk))

theorem utf8Size_le_of_isNumeral {base : ℕ} {digits : List Char} (hbase : base ≤ 16)
    (hne : digits ≠ []) (h : IsNumeral base digits c.toNat) : c.utf8Size ≤ digits.length :=
  utf8Size_le_of_lt_pow (List.length_pos_iff.mpr hne)
    (Nat.lt_of_lt_of_le h.lt (Nat.pow_le_pow_left hbase _))

theorem utf8Len_singleton (c : Char) : utf8Len [c] = c.utf8Size :=
  Nat.zero_add _

theorem utf8Len_le_of_sequence? (h : sequence? s = some (meant, n)) : utf8Len meant ≤ n := by
  rcases sequence?_eq_some_iff.mp h with ⟨-, rfl, rfl⟩ | ⟨c, letter, hc, -, rfl, rfl⟩ | h | h
  · exact Nat.zero_le 1
  · have hall : ∀ form ∈ shortForms, form.1.utf8Size ≤ 1 := by decide
    rw [utf8Len_singleton]
    exact hall _ hc
  · obtain ⟨hne, c, hc, rfl, rfl⟩ := octal?_eq_some_iff.mp h
    rw [utf8Len_singleton]
    exact utf8Size_le_of_isNumeral (by decide) hne hc
  · obtain ⟨letter, digits, c, -, hl, hc, rfl, rfl⟩ := hex?_eq_some_iff.mp h
    have hall : ∀ form ∈ hexForms, form.2 ≠ 0 := by decide
    have hne : digits ≠ [] := by
      rintro rfl
      exact hall _ hl rfl
    rw [utf8Len_singleton]
    exact (utf8Size_le_of_isNumeral (by decide) hne hc).trans (Nat.le_succ _)

theorem utf8Len_le_of_rule (h : rule c s = some (meant, n)) : utf8Len meant ≤ n := by
  rw [rule] at h
  split at h
  · exact utf8Len_le_of_sequence? h
  · cases h

theorem length_le_utf8Len (s : List Char) : s.length ≤ utf8Len s := by
  induction s with
  | nil => exact Nat.le_refl 0
  | cons c s ih =>
    have hc := c.utf8Size_pos
    rw [List.length_cons, String.utf8Len_cons]
    omega

/-- Decoding shortens every text that it changes, in characters and in bytes. -/
theorem decodeChars_eq_or_shrinks (s : List Char) : decodeChars s = s ∨
    (decodeChars s).length < s.length ∧ utf8Len (decodeChars s) < utf8Len s := by
  induction s using scan_induction rule with
  | nil => exact Or.inl rfl
  | plain c s hr ih =>
    rw [decodeChars_of_none hr]
    rcases ih with h | ⟨hlength, hbytes⟩
    · exact Or.inl (by rw [h])
    · refine Or.inr ⟨?_, ?_⟩
      · simpa using hlength
      · simpa using hbytes
  | found c s meant n hr ih =>
    rw [decodeChars_of_some hr, List.length_append, String.utf8Len_append]
    obtain ⟨hmeant, hpos, hlong⟩ := rule_bounds hr
    have hbytes : utf8Len meant ≤ n := utf8Len_le_of_rule hr
    have hfirst := c.utf8Size_pos
    have htaken := length_le_utf8Len (s.take n)
    rw [List.length_take, Nat.min_eq_left hlong] at htaken
    have hsplit : utf8Len s = utf8Len (s.take n) + utf8Len (s.drop n) := by
      rw [← String.utf8Len_append, List.take_append_drop]
    have hrest : (decodeChars (s.drop n)).length ≤ s.length - n ∧
        utf8Len (decodeChars (s.drop n)) ≤ utf8Len (s.drop n) := by
      rw [← List.length_drop]
      rcases ih with h | ⟨hl, hb⟩
      · rw [h]
        exact ⟨Nat.le_refl _, Nat.le_refl _⟩
      · exact ⟨Nat.le_of_lt hl, Nat.le_of_lt hb⟩
    rw [List.length_cons, String.utf8Len_cons]
    omega

theorem length_decodeChars_le (s : List Char) : (decodeChars s).length ≤ s.length := by
  rcases decodeChars_eq_or_shrinks s with h | ⟨h, -⟩
  · rw [h]
  · exact Nat.le_of_lt h

theorem length_decode_le (s : String) : (decode s).length ≤ s.length := by
  rw [decode, String.length_ofList, ← String.length_toList]
  exact length_decodeChars_le _

theorem length_decodeChars_lt (h : IsSequence b) (a : List Char) :
    (decodeChars (a ++ '\\' :: b)).length < (a ++ '\\' :: b).length := by
  generalize hs : a ++ '\\' :: b = s
  induction s using scan_induction rule generalizing a with
  | nil => simp at hs
  | plain c s hr ih =>
    cases a with
    | nil =>
      obtain ⟨rfl, rfl⟩ := List.cons.inj hs
      exact absurd ⟨rfl, h⟩ (rule_eq_none_iff.mp hr)
    | cons first a =>
      obtain ⟨rfl, rfl⟩ := List.cons.inj hs
      rw [decodeChars_of_none hr]
      exact Nat.succ_lt_succ (ih a rfl)
  | found c s meant n hr ih =>
    -- shorter already, whether or not the match covers the backslash in question
    obtain ⟨hmeant, hpos, hlong⟩ := rule_bounds hr
    have hrest := length_decodeChars_le (s.drop n)
    rw [List.length_drop] at hrest
    rw [decodeChars_of_some hr, List.length_append, List.length_cons]
    omega

theorem decodeChars_eq_self_iff :
    decodeChars s = s ↔ ∀ a b, s = a ++ '\\' :: b → ¬IsSequence b := by
  constructor
  · rintro hsame a b rfl hb
    have hlt := length_decodeChars_lt hb a
    rw [hsame] at hlt
    exact Nat.lt_irrefl _ hlt
  · intro h
    have hplain : scan rule s = s.map .plain := by
      apply scan_eq_map_plain
      rintro c u ⟨a, hsuffix⟩
      rw [rule_eq_none_iff]
      rintro ⟨rfl, hu⟩
      exact h a u hsuffix.symm hu
    rw [decodeChars, hplain, render_map_plain]

/-- Decoding changes a text exactly if a backslash in it has an escape sequence behind it, and
makes it shorter then. A backslash without one is kept as written, and an octal digit behind it is
always one that can be read. -/
theorem decode_eq_self_iff_and_shrinks (s : String) :
    (decode s = s ↔ ∀ a b, s.toList = a ++ '\\' :: b → ¬IsSequence b) ∧
    (decode s ≠ s → (decode s).length < s.length ∧ (decode s).utf8ByteSize < s.utf8ByteSize) ∧
    (∀ b : String, ¬IsSequence b.toList → decode ("\\" ++ b) = "\\" ++ decode b) ∧
    ∀ d b, octal? (d :: b) = none ↔ ¬∃ n, IsNumeral 8 [d] n := by
  refine ⟨?_, fun hne ↦ ?_, fun b hb ↦ ?_, fun d b ↦ ?_⟩
  · rw [decode_eq_self_iff, decodeChars_eq_self_iff]
  · have hchanged : decodeChars s.toList ≠ s.toList := fun h ↦ hne ((decode_eq_self_iff s).mpr h)
    obtain ⟨hlength, hbytes⟩ := (decodeChars_eq_or_shrinks s.toList).resolve_left hchanged
    rw [← String.utf8ByteSize_ofList, ← String.utf8ByteSize_ofList, String.ofList_toList] at hbytes
    rw [← String.length_toList, ← String.length_toList, toList_decode]
    exact ⟨hlength, hbytes⟩
  · rw [← String.toList_inj, toList_decode, String.toList_append, String.toList_append,
      toList_decode]
    exact decodeChars_backslash_of_eq_none (sequence?_eq_none_iff.mpr hb)
  · rw [octal?_cons_eq_none_iff, exists_isNumeral_singleton_iff (by decide)]

/-- A surrogate between a malformed sequence and one that is decoded. -/
theorem decode_eq_self_iff_and_shrinks_surrogate :
    let s := "\\xZ\\ud800\\u00e9\\"
    let b := "ud800\\u00e9\\"
    decode s ≠ s ∧ ((decode s).length < s.length ∧ (decode s).utf8ByteSize < s.utf8ByteSize) ∧
      ¬IsSequence b.toList ∧ decode ("\\" ++ b) = "\\" ++ decode b := by
  intro s b
  have hs : decode s ≠ s := by decide +kernel
  have hb : ¬IsSequence b.toList := by decide +kernel
  obtain ⟨-, hshrinks, hkept, -⟩ := decode_eq_self_iff_and_shrinks s
  exact ⟨hs, hshrinks hs, hb, hkept b hb⟩

end Bulletin.Escape
