import Bulletin.Text.Utf8

namespace Bulletin.Utf8

open String (utf8EncodeChar)

variable {c : Char} {b : UInt8}

def bytes (s : List Char) : List UInt8 :=
  s.flatMap utf8EncodeChar

@[simp]
theorem bytes_nil : bytes [] = [] :=
  rfl

@[simp]
theorem bytes_append (s t : List Char) : bytes (s ++ t) = bytes s ++ bytes t :=
  List.flatMap_append

theorem bytes_cons (c : Char) (s : List Char) : bytes (c :: s) = utf8EncodeChar c ++ bytes s :=
  List.flatMap_cons

theorem encode_append (s t : String) : encode (s ++ t) = encode s ++ encode t := by
  simp [encode]

theorem encode_join (ss : List String) : encode (String.join ss) = ss.flatMap encode := by
  induction ss with
  | nil => rfl
  | cons s ss ih => rw [String.join_cons, encode_append, ih, List.flatMap_cons]

theorem encode_ofList (s : List Char) : encode (String.ofList s) = s.flatMap utf8EncodeChar := by
  simp [encode]

theorem utf8EncodeChar_of_ascii (h : c.toNat < 0x80) : utf8EncodeChar c = [c.toUInt8] := by
  have hv : c.val.toNat ≤ 0x7F := Nat.le_of_lt_succ h
  rw [utf8EncodeChar, if_pos hv]
  rfl

theorem toNat_toUInt8 (h : c.toNat < 0x80) : c.toUInt8.toNat = c.toNat := by
  have hbyte : c.toUInt8.toNat = c.toNat % 256 := UInt32.toNat_toUInt8 c.val
  omega

theorem bytes_cons_ascii (h : c.toNat < 0x80) (s : List Char) :
    bytes (c :: s) = c.toUInt8 :: bytes s := by
  rw [bytes_cons, utf8EncodeChar_of_ascii h, List.singleton_append]

theorem le_of_mem_utf8EncodeChar (h : 0x80 ≤ c.toNat) (hb : b ∈ utf8EncodeChar c) :
    0x80 ≤ b.toNat := by
  have hv : ¬c.val.toNat ≤ 0x7F := Nat.not_le.mpr h
  have hbyte (n : Nat) : 0x80 ≤ (UInt8.ofNat (n % 0x40 + 0x80)).toNat := by
    rw [UInt8.toNat_ofNat']
    omega
  rw [utf8EncodeChar, if_neg hv] at hb
  split at hb
  · simp only [List.mem_cons, List.not_mem_nil, or_false] at hb
    rcases hb with rfl | rfl
    · rw [UInt8.toNat_ofNat']
      omega
    · exact hbyte _
  · split at hb
    · simp only [List.mem_cons, List.not_mem_nil, or_false] at hb
      rcases hb with rfl | rfl | rfl
      · rw [UInt8.toNat_ofNat']
        omega
      · exact hbyte _
      · exact hbyte _
    · simp only [List.mem_cons, List.not_mem_nil, or_false] at hb
      rcases hb with rfl | rfl | rfl | rfl
      · rw [UInt8.toNat_ofNat']
        omega
      · exact hbyte _
      · exact hbyte _
      · exact hbyte _

theorem toNat_of_mem_utf8EncodeChar (hb : b ∈ utf8EncodeChar c) (h : b.toNat < 0x80) :
    b.toNat = c.toNat := by
  by_cases hc : c.toNat < 0x80
  · rw [utf8EncodeChar_of_ascii hc, List.mem_singleton] at hb
    rw [hb, toNat_toUInt8 hc]
  · have hle := le_of_mem_utf8EncodeChar (Nat.le_of_not_lt hc) hb
    omega

end Bulletin.Utf8
