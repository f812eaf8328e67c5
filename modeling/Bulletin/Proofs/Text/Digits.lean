import Bulletin.Text.Digits
import Mathlib.Algebra.Group.Nat.Defs
import Mathlib.Data.List.Induction

namespace Bulletin.Text

variable {base n d : ℕ} {c : Char} {s : List Char}

def padded (base : ℕ) : ℕ → ℕ → List Char
  | 0, _ => []
  | width + 1, n => padded base width (n / base) ++ [Nat.digitChar (n % base)]

/-- A text writes a number in a base, with zeros in front and letters in either case. -/
structure IsNumeral (base : ℕ) (s : List Char) (n : ℕ) : Prop where
  lt : n < base ^ s.length
  digits : s.map Char.toLower = padded base s.length n

instance (base : ℕ) (s : List Char) (n : ℕ) : Decidable (IsNumeral base s n) :=
  decidable_of_iff (n < base ^ s.length ∧ s.map Char.toLower = padded base s.length n)
    ⟨fun ⟨hlt, hdigits⟩ ↦ ⟨hlt, hdigits⟩, fun ⟨hlt, hdigits⟩ ↦ ⟨hlt, hdigits⟩⟩

theorem toLower_of_not_ascii (hc : ¬c.toNat < 0x80) : c.toLower = c :=
  dif_neg (fun ⟨_, hz⟩ ↦ hc (Nat.lt_of_le_of_lt hz (by decide)))

theorem digitValue?_of_not_ascii (hc : ¬c.toNat < 0x80) : digitValue? base c = none := by
  have hdigit : ¬c.isDigit := by
    rw [Char.isDigit, Bool.and_eq_true, decide_eq_true_eq, decide_eq_true_eq]
    exact fun ⟨_, h⟩ ↦ hc (Nat.lt_of_le_of_lt h (by decide))
  have hlower : ¬('a' ≤ c ∧ c ≤ 'f') := fun ⟨_, h⟩ ↦ hc (Nat.lt_of_le_of_lt h (by decide))
  have hupper : ¬('A' ≤ c ∧ c ≤ 'F') := fun ⟨_, h⟩ ↦ hc (Nat.lt_of_le_of_lt h (by decide))
  rw [digitValue?, if_neg hdigit, if_neg hlower, if_neg hupper, Option.filter_none]

theorem digitValue?_eq_some_iff (hbase : base ≤ 16) :
    digitValue? base c = some d ↔ d < base ∧ c.toLower = Nat.digitChar d := by
  have hascii : ∀ n < 0x80, ∀ d < 16, digitValue? 16 (Char.ofNat n) = some d ↔
      (Char.ofNat n).toLower = Nat.digitChar d := by
    decide +kernel
  have hdigit : ∀ d < 16, (Nat.digitChar d).toNat < 0x80 := by decide
  by_cases hd : d < base
  · have hd16 : d < 16 := Nat.lt_of_lt_of_le hd hbase
    by_cases hc : c.toNat < 0x80
    · have hsixteen := hascii c.toNat hc d hd16
      rw [Char.ofNat_toNat, digitValue?, Option.filter_eq_some_iff] at hsixteen
      rw [digitValue?, Option.filter_eq_some_iff]
      simpa [hd, hd16] using hsixteen
    · rw [digitValue?_of_not_ascii hc, toLower_of_not_ascii hc]
      exact iff_of_false nofun (fun ⟨_, h⟩ ↦ absurd (hdigit d hd16) (h ▸ hc))
  · refine ⟨fun h ↦ ?_, fun ⟨h, _⟩ ↦ absurd h hd⟩
    rw [digitValue?, Option.filter_eq_some_iff, decide_eq_true_eq] at h
    exact absurd h.2 hd

theorem isNumeral_nil : IsNumeral base [] n ↔ n = 0 :=
  ⟨fun h ↦ Nat.lt_one_iff.mp h.lt, fun h ↦ ⟨Nat.lt_one_iff.mpr h, rfl⟩⟩

theorem isNumeral_append_singleton (hbase : base ≤ 16) : IsNumeral base (s ++ [c]) n ↔
    IsNumeral base s (n / base) ∧ digitValue? base c = some (n % base) := by
  rw [digitValue?_eq_some_iff hbase]
  have hlength : (s ++ [c]).length = s.length + 1 := List.length_append
  have hlower : (s ++ [c]).map Char.toLower = s.map Char.toLower ++ [c.toLower] := List.map_append
  constructor
  · rintro ⟨hlt, hdigits⟩
    rw [hlength, Nat.pow_succ'] at hlt
    rw [hlength, hlower, padded] at hdigits
    obtain ⟨hfront, hlast⟩ := List.append_inj' hdigits rfl
    have hpos : 0 < base := Nat.pos_of_mul_pos_right (Nat.zero_lt_of_lt hlt)
    exact ⟨⟨Nat.div_lt_of_lt_mul hlt, hfront⟩, Nat.mod_lt n hpos, List.singleton_inj.mp hlast⟩
  · rintro ⟨⟨hlt, hfront⟩, hdigit, hlast⟩
    have hpos : 0 < base := Nat.zero_lt_of_lt hdigit
    refine ⟨?_, ?_⟩
    · rw [hlength, Nat.pow_succ]
      exact (Nat.div_lt_iff_lt_mul hpos).mp hlt
    · rw [hlength, hlower, padded, hfront, hlast]

theorem number?_append_singleton (base : ℕ) (s : List Char) (c : Char) :
    number? base (s ++ [c]) =
      (number? base s).bind fun n ↦ (digitValue? base c).map (base * n + ·) := by
  rw [number?, number?, List.mapM_append, List.mapM_cons, List.mapM_nil]
  cases s.mapM (digitValue? base) with
  | none => rfl
  | some digits =>
    cases digitValue? base c with
    | none => rfl
    | some d => simp [ofDigits]

theorem number?_eq_some_iff (hbase : base ≤ 16) : number? base s = some n ↔ IsNumeral base s n := by
  induction s using List.reverseRecOn generalizing n with
  | nil =>
    rw [isNumeral_nil, eq_comm (a := n)]
    exact Option.some_inj
  | append_singleton s c ih =>
    rw [number?_append_singleton, isNumeral_append_singleton hbase, ← ih,
      Option.bind_eq_some_iff]
    constructor
    · rintro ⟨m, hm, h⟩
      obtain ⟨d, hd, rfl⟩ := Option.map_eq_some_iff.mp h
      have hlt : d < base := ((digitValue?_eq_some_iff hbase).mp hd).1
      rw [Nat.mul_add_div (Nat.zero_lt_of_lt hlt), Nat.div_eq_of_lt hlt, Nat.mul_add_mod,
        Nat.mod_eq_of_lt hlt]
      exact ⟨hm, hd⟩
    · rintro ⟨hm, hd⟩
      exact ⟨n / base, hm, Option.map_eq_some_iff.mpr ⟨n % base, hd, Nat.div_add_mod n base⟩⟩

theorem exists_isNumeral_iff (hbase : base ≤ 16) :
    (∃ n, IsNumeral base s n) ↔ ∀ c ∈ s, isDigitIn base c := by
  induction s using List.reverseRecOn with
  | nil => exact iff_of_true ⟨0, isNumeral_nil.mpr rfl⟩ (fun _ hc ↦ absurd hc List.not_mem_nil)
  | append_singleton s c ih =>
    have hlast : (∀ x ∈ s ++ [c], isDigitIn base x) ↔
        (∀ x ∈ s, isDigitIn base x) ∧ isDigitIn base c := by
      rw [List.forall_mem_append, List.forall_mem_singleton]
    rw [hlast, ← ih]
    -- not by the numeral itself, whose last digit would have to be taken apart by arithmetic
    simp only [← number?_eq_some_iff hbase, number?_append_singleton, isDigitIn,
      Option.isSome_iff_exists]
    constructor
    · rintro ⟨n, h⟩
      obtain ⟨m, hm, h⟩ := Option.bind_eq_some_iff.mp h
      obtain ⟨d, hd, -⟩ := Option.map_eq_some_iff.mp h
      exact ⟨⟨m, hm⟩, d, hd⟩
    · rintro ⟨⟨m, hm⟩, d, hd⟩
      exact ⟨base * m + d, by rw [hm, hd, Option.bind_some, Option.map_some]⟩

theorem exists_isNumeral_singleton_iff (hbase : base ≤ 16) :
    (∃ n, IsNumeral base [c] n) ↔ isDigitIn base c := by
  rw [exists_isNumeral_iff hbase, List.forall_mem_singleton]

theorem scalar?_eq_some_iff : scalar? n = some c ↔ n = c.toNat := by
  rw [scalar?]
  constructor
  · intro h
    split at h
    · rename_i hn
      cases h
      rw [Char.ofNat, dif_pos hn]
      rfl
    · cases h
  · rintro rfl
    have hc : c.toNat.isValidChar := c.valid
    rw [if_pos hc, Char.ofNat_toNat]

theorem exists_toNat_eq (h : n.isValidChar) : ∃ c : Char, c.toNat = n := by
  have hn : scalar? n = some (Char.ofNat n) := if_pos h
  exact ⟨Char.ofNat n, (scalar?_eq_some_iff.mp hn).symm⟩

end Bulletin.Text
