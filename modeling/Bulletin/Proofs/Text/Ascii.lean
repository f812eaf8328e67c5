import Bulletin.Proofs.Text.Utf8
import Mathlib.Data.List.Basic

namespace Bulletin.Utf8

open String (utf8EncodeChar)

/-- Bytes and characters side by side: an ASCII byte beside the character of its number, and any
other character beside one or more bytes outside of ASCII. -/
inductive Aligned : List UInt8 → List Char → Prop
  | nil : Aligned [] []
  | ascii {c : Char} {bytes : List UInt8} {s : List Char} (hc : c.toNat < 0x80)
      (h : Aligned bytes s) : Aligned (c.toUInt8 :: bytes) (c :: s)
  | other {c : Char} {block bytes : List UInt8} {s : List Char} (hc : 0x80 ≤ c.toNat)
      (hne : block ≠ []) (hblock : ∀ b ∈ block, 0x80 ≤ b.toNat) (h : Aligned bytes s) :
      Aligned (block ++ bytes) (c :: s)

def asciiNumbers (bytes : List UInt8) : List Nat :=
  (bytes.map UInt8.toNat).filter (· < 0x80)

/-- What is ASCII stands in the same order in some bytes and in their text: each byte of it is the
character of its number, and a word of it stands behind the same ones in both. -/
structure KeepsAscii (bytes : List UInt8) (s : List Char) : Prop where
  numbers_eq : (s.map Char.toNat).filter (· < 0x80) = asciiNumbers bytes
  word_of_bytes : ∀ before word after, word ≠ [] → (∀ c ∈ word, c.toNat < 0x80) →
    bytes = before ++ Utf8.bytes word ++ after → ∃ s₁ s₂, s = s₁ ++ word ++ s₂ ∧
      (s₁.map Char.toNat).filter (· < 0x80) = asciiNumbers before
  word_of_text : ∀ s₁ word s₂, (∀ c ∈ word, c.toNat < 0x80) → s = s₁ ++ word ++ s₂ →
    ∃ before after, bytes = before ++ Utf8.bytes word ++ after ∧
      asciiNumbers before = (s₁.map Char.toNat).filter (· < 0x80)

variable {c : Char} {bytes before after : List UInt8} {s s' word : List Char}

theorem toUInt8_ofUInt8 (b : UInt8) : (Char.ofUInt8 b).toUInt8 = b := by
  have hb : (Char.ofUInt8 b).toNat = b.toNat := UInt8.toNat_toUInt32 b
  have ht : (Char.ofUInt8 b).toUInt8.toNat = (Char.ofUInt8 b).toNat % 256 :=
    UInt32.toNat_toUInt8 (Char.ofUInt8 b).val
  rw [← UInt8.toNat_inj, ht, hb, Nat.mod_eq_of_lt b.toNat_lt]

namespace Aligned

theorem of_bytes (s : List Char) : Aligned (Utf8.bytes s) s := by
  induction s with
  | nil => exact .nil
  | cons c s ih =>
    by_cases hc : c.toNat < 0x80
    · rw [bytes_cons_ascii hc]
      exact .ascii hc ih
    · have hle := Nat.le_of_not_lt hc
      have hne : utf8EncodeChar c ≠ [] := by
        rw [← List.length_pos_iff, String.length_utf8EncodeChar]
        exact c.utf8Size_pos
      rw [bytes_cons]
      exact .other hle hne (fun b hb ↦ le_of_mem_utf8EncodeChar hle hb) ih

theorem of_latin1 (bytes : List UInt8) : Aligned bytes (bytes.map Char.ofUInt8) := by
  induction bytes with
  | nil => exact .nil
  | cons b bytes ih =>
    have hb : (Char.ofUInt8 b).toNat = b.toNat := UInt8.toNat_toUInt32 b
    rw [List.map_cons]
    by_cases hc : (Char.ofUInt8 b).toNat < 0x80
    · have halign := Aligned.ascii hc ih
      rwa [toUInt8_ofUInt8] at halign
    · have hle := Nat.le_of_not_lt hc
      exact .other hle (List.cons_ne_nil b []) (List.forall_mem_singleton.mpr (hb ▸ hle)) ih

theorem eq_nil (h : Aligned [] s) : s = [] := by
  generalize hb : ([] : List UInt8) = bytes at h
  cases h with
  | nil => rfl
  | ascii => cases hb
  | other _ hne => exact absurd (List.append_eq_nil_iff.mp hb.symm).1 hne

theorem numbers_eq (h : Aligned bytes s) :
    (s.map Char.toNat).filter (· < 0x80) = asciiNumbers bytes := by
  induction h with
  | nil => rfl
  | ascii hc _ ih =>
    rw [asciiNumbers] at ih
    simp only [asciiNumbers, List.map_cons, toNat_toUInt8 hc, List.filter_cons, ih]
  | @other c block bytes s hc _ hblock _ ih =>
    have hnone : (block.map UInt8.toNat).filter (· < 0x80) = [] := by
      rw [List.filter_eq_nil_iff]
      simpa using hblock
    rw [asciiNumbers, List.map_append, List.filter_append, hnone, List.nil_append,
      ← asciiNumbers, ← ih, List.map_cons, List.filter_cons_of_neg (by simpa using hc)]

theorem cut_byte (h : Aligned (before ++ c.toUInt8 :: after) s) (hc : c.toNat < 0x80) :
    ∃ s₁ s₂, s = s₁ ++ c :: s₂ ∧ Aligned before s₁ ∧ Aligned after s₂ := by
  generalize hb : before ++ c.toUInt8 :: after = bytes at h
  induction h generalizing before with
  | nil => simp at hb
  | @ascii c' bytes s hc' h ih =>
    cases before with
    | nil =>
      obtain ⟨hbyte, rfl⟩ := List.cons.inj hb
      have hsame : c = c' := by
        rw [← Char.toNat_inj, ← toNat_toUInt8 hc, hbyte, toNat_toUInt8 hc']
      exact ⟨[], s, by rw [hsame, List.nil_append], .nil, h⟩
    | cons b before =>
      obtain ⟨rfl, hrest⟩ := List.cons.inj hb
      obtain ⟨s₁, s₂, rfl, h₁, h₂⟩ := ih hrest
      exact ⟨c' :: s₁, s₂, rfl, .ascii hc' h₁, h₂⟩
  | @other c' block bytes s hc' hne hblock h ih =>
    -- The byte is not in the block, so the cut is behind it.
    have hbehind : ∃ rest, before = block ++ rest ∧ rest ++ c.toUInt8 :: after = bytes := by
      rcases List.append_eq_append_iff.mp hb with ⟨rest, rfl, hrest⟩ | ⟨rest, rfl, hrest⟩
      · cases rest with
        | nil => exact ⟨[], by simp, by simpa using hrest⟩
        | cons b rest =>
          obtain ⟨rfl, -⟩ := List.cons.inj hrest
          have hlarge := hblock c.toUInt8 (by simp)
          rw [toNat_toUInt8 hc] at hlarge
          omega
      · exact ⟨rest, rfl, hrest.symm⟩
    obtain ⟨rest, rfl, hrest⟩ := hbehind
    obtain ⟨s₁, s₂, rfl, h₁, h₂⟩ := ih hrest
    exact ⟨c' :: s₁, s₂, rfl, .other hc' hne hblock h₁, h₂⟩

theorem cut_word (h : Aligned (Utf8.bytes word ++ after) s) (hword : ∀ c ∈ word, c.toNat < 0x80) :
    ∃ s₂, s = word ++ s₂ ∧ Aligned after s₂ := by
  induction word generalizing s with
  | nil => exact ⟨s, rfl, h⟩
  | cons c word ih =>
    rw [List.forall_mem_cons] at hword
    rw [bytes_cons_ascii hword.1] at h
    obtain ⟨s₁, s₂, rfl, h₁, h₂⟩ := @cut_byte c [] _ _ h hword.1
    obtain ⟨s₃, rfl, h₃⟩ := ih h₂ hword.2
    exact ⟨s₃, by rw [h₁.eq_nil, List.nil_append, List.cons_append], h₃⟩

theorem cut_text (h : Aligned bytes (s ++ s')) :
    ∃ before after, bytes = before ++ after ∧ Aligned before s ∧ Aligned after s' := by
  induction s generalizing bytes with
  | nil => exact ⟨[], bytes, rfl, .nil, h⟩
  | cons c s ih =>
    cases h with
    | ascii hc h =>
      obtain ⟨before, after, rfl, h₁, h₂⟩ := ih h
      exact ⟨_ :: before, after, rfl, .ascii hc h₁, h₂⟩
    | @other _ block bytes _ hc hne hblock h =>
      obtain ⟨before, after, rfl, h₁, h₂⟩ := ih h
      exact ⟨block ++ before, after, by rw [List.append_assoc], .other hc hne hblock h₁, h₂⟩

theorem eq_bytes (h : Aligned bytes word) (hword : ∀ c ∈ word, c.toNat < 0x80) :
    bytes = Utf8.bytes word := by
  induction h with
  | nil => rfl
  | ascii hc _ ih =>
    rw [List.forall_mem_cons] at hword
    rw [bytes_cons_ascii hc, ← ih hword.2]
  | other hc => exact absurd (hword _ List.mem_cons_self) (Nat.not_lt.mpr hc)

theorem keepsAscii (h : Aligned bytes s) : KeepsAscii bytes s where
  numbers_eq := h.numbers_eq
  word_of_bytes before word after hne hword hbytes := by
    obtain ⟨c, rest, rfl⟩ := List.exists_cons_of_ne_nil hne
    rw [List.forall_mem_cons] at hword
    rw [hbytes, bytes_cons_ascii hword.1, List.append_assoc, List.cons_append] at h
    obtain ⟨s₁, s₂, rfl, h₁, h₂⟩ := h.cut_byte hword.1
    obtain ⟨s₃, rfl, -⟩ := h₂.cut_word hword.2
    exact ⟨s₁, s₃, by simp, h₁.numbers_eq⟩
  word_of_text s₁ word s₂ hword hs := by
    rw [hs, List.append_assoc] at h
    obtain ⟨before, rest, rfl, h₁, hrest⟩ := h.cut_text
    obtain ⟨middle, after, rfl, hmiddle, -⟩ := hrest.cut_text
    exact ⟨before, after, by rw [hmiddle.eq_bytes hword, List.append_assoc], h₁.numbers_eq.symm⟩

end Aligned

end Bulletin.Utf8
