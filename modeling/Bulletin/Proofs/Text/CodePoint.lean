import Bulletin.Proofs.Text.Digits
import Bulletin.Proofs.Text.Utf8

namespace Bulletin.Utf8

open String (utf8EncodeChar)

def IsContinuation (b : UInt8) : Prop :=
  b.toNat / 0x40 = 0b10

/-- Bytes in the shape of one character carry a number. The leading bits of the first byte tell how
many bytes follow, each of which carries six bits more. -/
inductive Carries : List UInt8 → Nat → Prop
  | one {a : UInt8} {n : Nat} (ha : a.toNat < 0x80) (hn : n = a.toNat) : Carries [a] n
  | two {a b : UInt8} {n : Nat} (ha : a.toNat / 0x20 = 0b110) (hb : IsContinuation b)
      (hn : n = a.toNat % 0x20 * 0x40 + b.toNat % 0x40) : Carries [a, b] n
  | three {a b c : UInt8} {n : Nat} (ha : a.toNat / 0x10 = 0b1110) (hb : IsContinuation b)
      (hc : IsContinuation c)
      (hn : n = (a.toNat % 0x10 * 0x40 + b.toNat % 0x40) * 0x40 + c.toNat % 0x40) :
      Carries [a, b, c] n
  | four {a b c d : UInt8} {n : Nat} (ha : a.toNat / 0x8 = 0b11110) (hb : IsContinuation b)
      (hc : IsContinuation c) (hd : IsContinuation d)
      (hn : n = ((a.toNat % 0x8 * 0x40 + b.toNat % 0x40) * 0x40 + c.toNat % 0x40) * 0x40 +
        d.toNat % 0x40) : Carries [a, b, c, d] n

def leastOf : Nat → Nat
  | 2 => 0x80
  | 3 => 0x800
  | 4 => 0x10000
  | _ => 0

/-- The bytes of the character of a number. They are no more than the number needs, and the number
is neither a surrogate nor too large. -/
structure IsCharacter (bytes : List UInt8) (n : Nat) : Prop where
  carries : Carries bytes n
  not_overlong : leastOf bytes.length ≤ n
  not_surrogate : n < 0xD800 ∨ 0xDFFF < n
  le_last : n ≤ 0x10FFFF

inductive Forms : List UInt8 → List Nat → Prop
  | nil : Forms [] []
  | cons {first rest : List UInt8} {n : Nat} {numbers : List Nat} (hfirst : IsCharacter first n)
      (hrest : Forms rest numbers) : Forms (first ++ rest) (n :: numbers)

variable {bytes : List UInt8} {numbers : List Nat} {n : Nat} {c : Char}

theorem isCharacter_utf8EncodeChar (c : Char) : IsCharacter (utf8EncodeChar c) c.toNat := by
  have hvalid : c.toNat < 0xD800 ∨ 0xDFFF < c.toNat ∧ c.toNat < 0x110000 := c.valid
  have hval : c.val.toNat = c.toNat := rfl
  have hform : Carries (utf8EncodeChar c) c.toNat ∧
      leastOf (utf8EncodeChar c).length ≤ c.toNat := by
    rw [utf8EncodeChar]
    simp only [hval]
    split
    · refine ⟨.one ?_ ?_, Nat.zero_le _⟩
      all_goals rw [UInt8.toNat_ofNat']; omega
    · split
      · refine ⟨.two ?_ ?_ ?_, ?_⟩
        case refine_4 => simp only [leastOf, List.length_cons, List.length_nil]; omega
        all_goals simp only [IsContinuation, UInt8.toNat_ofNat']; omega
      · split
        · refine ⟨.three ?_ ?_ ?_ ?_, ?_⟩
          case refine_5 => simp only [leastOf, List.length_cons, List.length_nil]; omega
          all_goals simp only [IsContinuation, UInt8.toNat_ofNat']; omega
        · refine ⟨.four ?_ ?_ ?_ ?_ ?_, ?_⟩
          case refine_6 => simp only [leastOf, List.length_cons, List.length_nil]; omega
          all_goals simp only [IsContinuation, UInt8.toNat_ofNat']; omega
  exact ⟨hform.1, hform.2, by omega, by omega⟩

theorem ofNat_eq {b : UInt8} (h : n = b.toNat) : UInt8.ofNat n = b := by
  rw [h, UInt8.ofNat_toNat]

theorem IsCharacter.exists_eq (h : IsCharacter bytes n) :
    ∃ c : Char, c.toNat = n ∧ utf8EncodeChar c = bytes := by
  obtain ⟨hcarries, hleast, hsurrogate, hlast⟩ := h
  have hvalid : n.isValidChar := by
    rw [Nat.isValidChar]
    omega
  obtain ⟨c, hc⟩ := Text.exists_toNat_eq hvalid
  refine ⟨c, hc, ?_⟩
  have hval : c.val.toNat = n := hc
  rw [utf8EncodeChar]
  simp only [hval]
  cases hcarries with
  | one ha hn => rw [if_pos (by omega), ofNat_eq hn]
  | @two a b _ ha hb hn =>
    simp only [leastOf, IsContinuation, List.length_cons, List.length_nil] at hleast hb
    rw [if_neg (by omega), if_pos (by omega), ofNat_eq (b := a) (by omega),
      ofNat_eq (b := b) (by omega)]
  | @three a b c _ ha hb hc hn =>
    simp only [leastOf, IsContinuation, List.length_cons, List.length_nil] at hleast hb hc
    rw [if_neg (by omega), if_neg (by omega), if_pos (by omega), ofNat_eq (b := a) (by omega),
      ofNat_eq (b := b) (by omega), ofNat_eq (b := c) (by omega)]
  | @four a b c d _ ha hb hc hd hn =>
    simp only [leastOf, IsContinuation, List.length_cons, List.length_nil] at hleast hb hc hd
    rw [if_neg (by omega), if_neg (by omega), if_neg (by omega), ofNat_eq (b := a) (by omega),
      ofNat_eq (b := b) (by omega), ofNat_eq (b := c) (by omega), ofNat_eq (b := d) (by omega)]

theorem forms_bytes (s : List Char) : Forms (Utf8.bytes s) (s.map Char.toNat) := by
  induction s with
  | nil => exact .nil
  | cons c s ih =>
    rw [bytes_cons, List.map_cons]
    exact .cons (isCharacter_utf8EncodeChar c) ih

theorem Forms.exists_eq (h : Forms bytes numbers) :
    ∃ s : List Char, s.map Char.toNat = numbers ∧ Utf8.bytes s = bytes := by
  induction h with
  | nil => exact ⟨[], rfl, rfl⟩
  | cons hfirst _ ih =>
    obtain ⟨c, rfl, rfl⟩ := hfirst.exists_eq
    obtain ⟨s, rfl, rfl⟩ := ih
    exact ⟨c :: s, rfl, bytes_cons c s⟩

/-- The characters of a text are written as the bytes that stand for their numbers, and as no other
bytes. -/
theorem forms_iff (text : String) :
    Forms bytes (text.toList.map Char.toNat) ↔ bytes = encode text := by
  refine ⟨fun h ↦ ?_, fun h ↦ h ▸ forms_bytes text.toList⟩
  obtain ⟨s, hs, rfl⟩ := h.exists_eq
  rw [List.map_inj_right (fun _ _ ↦ Char.toNat_inj.mp)] at hs
  rw [hs]
  rfl

theorem exists_forms_iff : (∃ numbers, Forms bytes numbers) ↔ ∃ text, bytes = encode text := by
  refine ⟨fun ⟨numbers, h⟩ ↦ ?_, fun ⟨text, h⟩ ↦ ⟨_, (forms_iff text).mpr h⟩⟩
  obtain ⟨s, -, rfl⟩ := h.exists_eq
  exact ⟨String.ofList s, (encode_ofList s).symm⟩

end Bulletin.Utf8
