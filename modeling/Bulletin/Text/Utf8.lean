namespace Bulletin.Utf8

def encode (s : String) : List UInt8 :=
  s.toList.flatMap String.utf8EncodeChar

def decode? (bytes : List UInt8) : Option String :=
  String.fromUTF8? bytes.toByteArray

/-- Counts, from position `start` on, the bytes of the characters that follow one another before
the first byte at which no character begins. At most `fuel` characters are looked at. -/
def validEnd (bytes : ByteArray) : Nat → Nat → Nat
  | 0, start => start
  | fuel + 1, start =>
    match bytes.utf8DecodeChar? start with
    | some c => validEnd bytes fuel (start + c.utf8Size)
    | none => start

/-- The length of the longest beginning of the bytes that is a text in UTF-8. -/
def validLength (bytes : List UInt8) : Nat :=
  validEnd bytes.toByteArray bytes.length 0

def latin1 (bytes : List UInt8) : String :=
  String.ofList (bytes.map Char.ofUInt8)

theorem toByteArray_encode (s : String) : (encode s).toByteArray = s.toByteArray := by
  rw [encode, ← List.utf8Encode, String.utf8Encode_toList]

@[simp]
theorem decode?_encode (s : String) : decode? (encode s) = some s := by
  rw [decode?, toByteArray_encode, String.fromUTF8?, dif_pos s.isValidUTF8]
  rfl

theorem encode_of_decode? {bytes : List UInt8} {s : String} (h : decode? bytes = some s) :
    encode s = bytes := by
  rw [decode?, String.fromUTF8?, Option.dite_none_right_eq_some] at h
  obtain ⟨hv, hs⟩ := h
  have hb : (encode s).toByteArray = bytes.toByteArray := by
    rw [toByteArray_encode, ← Option.some.inj hs]
    rfl
  simpa using congrArg (fun b : ByteArray ↦ b.data.toList) hb

theorem decode?_eq_some_iff {bytes : List UInt8} {s : String} :
    decode? bytes = some s ↔ bytes = encode s :=
  ⟨fun h ↦ (encode_of_decode? h).symm, fun h ↦ h ▸ decode?_encode s⟩

end Bulletin.Utf8
