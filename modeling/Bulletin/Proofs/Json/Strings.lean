import Bulletin.Json.Token
import Bulletin.Proofs.Json.Grammar
import Bulletin.Proofs.Text.Digits
import Bulletin.Proofs.Text.Utf8

namespace Bulletin.Json

open String (utf8EncodeChar)
open Utf8 (bytes)

variable {c letter : Char} {done s meant plain : List UInt8} {covered n : Nat}
  {form : List Char} {forms : List (List Char)}

theorem toNat_ascii (h : c.toNat < 0x80) : (ascii c).toNat = c.toNat :=
  Utf8.toNat_toUInt8 h

theorem bytes_cons_of_ascii (h : c.toNat < 0x80) (s : List Char) :
    bytes (c :: s) = ascii c :: bytes s :=
  Utf8.bytes_cons_ascii h s

theorem ofUInt8_ascii (h : c.toNat < 0x80) : Char.ofUInt8 (ascii c) = c := by
  have ht : (Char.ofUInt8 (ascii c)).toNat = (ascii c).toNat := UInt8.toNat_toUInt32 _
  rw [← Char.toNat_inj, ht, toNat_ascii h]

theorem readStringFrom_covered (done : List UInt8) (covered : Nat) (s : List UInt8) :
    readStringFrom done covered s = readStringFrom done 0 (s.drop covered) := by
  induction s generalizing covered with
  | nil => cases covered <;> rfl
  | cons b s ih =>
    cases covered with
    | zero => rfl
    | succ covered => exact ih covered

theorem skipStringFrom_covered (covered : Nat) (s : List UInt8) :
    skipStringFrom covered s = skipStringFrom 0 (s.drop covered) := by
  induction s generalizing covered with
  | nil => cases covered <;> rfl
  | cons b s ih =>
    cases covered with
    | zero => rfl
    | succ covered => exact ih covered

theorem readStringFrom_quote (done s : List UInt8) :
    readStringFrom done 0 (quote :: s) = .ok (done.reverse, s) := by
  rw [readStringFrom, if_pos rfl]

theorem skipString_quote (s : List UInt8) : skipString (quote :: s) = .ok s := by
  rw [skipString, skipStringFrom, if_pos rfl]

theorem readStringFrom_escape (h : readEscape s = .ok (meant, covered)) :
    readStringFrom done 0 (backslash :: s) =
      readStringFrom (meant.reverse ++ done) 0 (s.drop covered) := by
  rw [readStringFrom, if_neg (by decide), if_pos rfl, h]
  exact readStringFrom_covered _ _ _

theorem skipString_escape (h : skipEscape s = .ok covered) :
    skipString (backslash :: s) = skipString (s.drop covered) := by
  rw [skipString, skipStringFrom, if_neg (by decide), if_pos rfl, h]
  exact skipStringFrom_covered _ _

def IsPlain (b : UInt8) : Prop :=
  b ≠ quote ∧ b ≠ backslash ∧ ¬b < 0x20

theorem readStringFrom_plain (h : ∀ b ∈ plain, IsPlain b) (done s : List UInt8) :
    readStringFrom done 0 (plain ++ s) = readStringFrom (plain.reverse ++ done) 0 s := by
  induction plain generalizing done with
  | nil => rfl
  | cons b plain ih =>
    obtain ⟨hq, hb, hc⟩ := h b List.mem_cons_self
    rw [List.cons_append, readStringFrom, if_neg hq, if_neg hb, if_neg hc,
      ih (fun b hb ↦ h b (List.mem_cons_of_mem _ hb))]
    simp

theorem skipString_plain (h : ∀ b ∈ plain, IsPlain b) (s : List UInt8) :
    skipString (plain ++ s) = skipString s := by
  induction plain with
  | nil => rfl
  | cons b plain ih =>
    obtain ⟨hq, hb, hc⟩ := h b List.mem_cons_self
    rw [List.cons_append, skipString, skipStringFrom, if_neg hq, if_neg hb, if_neg hc, ← skipString,
      ih (fun b hb ↦ h b (List.mem_cons_of_mem _ hb))]

theorem isPlain_of_mem_utf8EncodeChar (hc : 0x20 ≤ c.toNat) (hq : c ≠ '"') (hb : c ≠ '\\')
    {b : UInt8} (h : b ∈ utf8EncodeChar c) : IsPlain b := by
  refine ⟨?_, ?_, ?_⟩
  · rintro rfl
    exact hq (Char.toNat_inj.mp (Utf8.toNat_of_mem_utf8EncodeChar h (by decide)).symm)
  · rintro rfl
    exact hb (Char.toNat_inj.mp (Utf8.toNat_of_mem_utf8EncodeChar h (by decide)).symm)
  · intro hlt
    have hb : b.toNat < 0x20 := UInt8.lt_iff_toNat_lt.mp hlt
    have hsame := Utf8.toNat_of_mem_utf8EncodeChar h (by omega)
    omega

theorem shortEscape?_letter (h : shortForm? c = some letter ∨ c = '/' ∧ letter = '/') :
    letter.toNat < 0x80 ∧ c.toNat < 0x80 ∧ shortEscape? (ascii letter) = some (ascii c) := by
  rcases h with h | ⟨rfl, rfl⟩
  · unfold shortForm? at h
    split at h <;> cases h <;> decide
  · decide

theorem digitValue?_of_toLower {d : Nat} (hd : d < 16) (h : c.toLower = Nat.digitChar d) :
    c.toNat < 0x80 ∧ Text.digitValue? 16 c = some d := by
  have hvalue := (Text.digitValue?_eq_some_iff (by decide)).mpr ⟨hd, h⟩
  refine ⟨?_, hvalue⟩
  by_contra hc
  rw [Text.digitValue?_of_not_ascii hc] at hvalue
  cases hvalue

theorem readCodeUnit_hexDigits (hn : n < 0x10000) (h : form.map Char.toLower = hexDigits n)
    (s : List UInt8) :
    (bytes form).length = 4 ∧ readCodeUnit (bytes form ++ s) = .ok (n, s) := by
  obtain ⟨a, _, rfl, ha, h⟩ := List.map_eq_cons_iff.mp h
  obtain ⟨b, _, rfl, hb, h⟩ := List.map_eq_cons_iff.mp h
  obtain ⟨c, _, rfl, hc, h⟩ := List.map_eq_cons_iff.mp h
  obtain ⟨d, _, rfl, hd, h⟩ := List.map_eq_cons_iff.mp h
  obtain rfl := List.map_eq_nil_iff.mp h
  obtain ⟨ha, hva⟩ := digitValue?_of_toLower (Nat.mod_lt _ (by decide)) ha
  obtain ⟨hb, hvb⟩ := digitValue?_of_toLower (Nat.mod_lt _ (by decide)) hb
  obtain ⟨hc, hvc⟩ := digitValue?_of_toLower (Nat.mod_lt _ (by decide)) hc
  obtain ⟨hd, hvd⟩ := digitValue?_of_toLower (Nat.mod_lt _ (by decide)) hd
  have hbytes : bytes [a, b, c, d] = [ascii a, ascii b, ascii c, ascii d] := by
    simp only [bytes_cons_of_ascii, ha, hb, hc, hd, Utf8.bytes_nil]
  have hnumber : Text.number? 16 [a, b, c, d] = some n := by
    simp only [Text.number?, List.mapM_cons, List.mapM_nil, hva, hvb, hvc, hvd, bind, pure,
      Option.bind_some, Option.map_some, Text.ofDigits, List.foldl_cons, List.foldl_nil,
      Option.some.injEq]
    omega
  rw [hbytes]
  refine ⟨rfl, ?_⟩
  simp [readCodeUnit, ofUInt8_ascii, ha, hb, hc, hd, hnumber]

theorem readEscape_numbered (s : List UInt8) : readEscape (ascii 'u' :: s) = readNumbered s := by
  have hu : shortEscape? (ascii 'u') = none := by decide
  simp [readEscape, hu]

theorem isLowSurrogate_iff : isLowSurrogate n = true ↔ 0xDC00 ≤ n ∧ n ≤ 0xDFFF := by
  simp [isLowSurrogate]

theorem isHighSurrogate_iff : isHighSurrogate n = true ↔ 0xD800 ≤ n ∧ n ≤ 0xDBFF := by
  simp [isHighSurrogate]

theorem readNumbered_single (hc : c.toNat < 0x10000) (h : form.map Char.toLower = hexDigits c.toNat)
    (s : List UInt8) : readNumbered (bytes form ++ s) = .ok (utf8EncodeChar c, 5) := by
  have hread := (readCodeUnit_hexDigits hc h s).2
  have hvalid : c.toNat < 0xD800 ∨ 0xDFFF < c.toNat ∧ c.toNat < 0x110000 := c.valid
  have hlow : isLowSurrogate c.toNat = false := by
    rw [Bool.eq_false_iff, ne_eq, isLowSurrogate_iff]
    omega
  have hhigh : isHighSurrogate c.toNat = false := by
    rw [Bool.eq_false_iff, ne_eq, isHighSurrogate_iff]
    omega
  simp [readNumbered, hread, bind, Except.bind, hlow, hhigh, characterBytes]

theorem readNumbered_pair {high low : List Char} (hc : 0x10000 ≤ c.toNat)
    (hhigh : high.map Char.toLower = hexDigits (0xD800 + (c.toNat - 0x10000) / 0x400))
    (hlow : low.map Char.toLower = hexDigits (0xDC00 + (c.toNat - 0x10000) % 0x400))
    (s : List UInt8) :
    readNumbered (bytes high ++ backslash :: ascii 'u' :: (bytes low ++ s)) =
      .ok (utf8EncodeChar c, 11) := by
  have hvalid : c.toNat < 0xD800 ∨ 0xDFFF < c.toNat ∧ c.toNat < 0x110000 := c.valid
  have hfirst := (readCodeUnit_hexDigits (by omega) hhigh
    (backslash :: ascii 'u' :: (bytes low ++ s))).2
  have hsecond := (readCodeUnit_hexDigits (by omega) hlow s).2
  generalize hn : 0xD800 + (c.toNat - 0x10000) / 0x400 = n at hfirst
  generalize hm : 0xDC00 + (c.toNat - 0x10000) % 0x400 = m at hsecond
  have hnlow : isLowSurrogate n = false := by
    rw [Bool.eq_false_iff, ne_eq, isLowSurrogate_iff]
    omega
  have hnhigh : isHighSurrogate n = true := by
    rw [isHighSurrogate_iff]
    omega
  have hmlow : isLowSurrogate m = true := by
    rw [isLowSurrogate_iff]
    omega
  have hsum : 0x10000 + (n - 0xD800) * 0x400 + (m - 0xDC00) = c.toNat := by omega
  simp [readNumbered, hfirst, hsecond, readPairByte, bind, Except.bind, hnlow, hnhigh, hmlow,
    characterBytes, hsum]

theorem skipString_hexDigits (hn : n < 0x10000) (h : form.map Char.toLower = hexDigits n)
    (s : List UInt8) :
    skipString (backslash :: ascii 'u' :: (bytes form ++ s)) = skipString s := by
  obtain ⟨hlength, hread⟩ := readCodeUnit_hexDigits hn h s
  have hu : shortEscape? (ascii 'u') = none := by decide
  have hskip : skipEscape (ascii 'u' :: (bytes form ++ s)) = .ok 5 := by
    simp [skipEscape, hu, hread, Except.map]
  have hdrop : (ascii 'u' :: (bytes form ++ s)).drop 5 = s := by
    simp [← hlength]
  rw [skipString_escape hskip, hdrop]

theorem bytes_numbered (form : List Char) :
    bytes ('\\' :: 'u' :: form) = backslash :: ascii 'u' :: bytes form := by
  rw [bytes_cons_of_ascii (by decide), bytes_cons_of_ascii (by decide)]
  rfl

theorem codeUnits_cases (h : forms.map (·.map Char.toLower) = (codeUnits c).map hexDigits) :
    (c.toNat < 0x10000 ∧ ∃ form, forms = [form] ∧ form.map Char.toLower = hexDigits c.toNat) ∨
    0x10000 ≤ c.toNat ∧ ∃ high low, forms = [high, low] ∧
      high.map Char.toLower = hexDigits (0xD800 + (c.toNat - 0x10000) / 0x400) ∧
      low.map Char.toLower = hexDigits (0xDC00 + (c.toNat - 0x10000) % 0x400) := by
  rw [codeUnits] at h
  split at h
  · rename_i hc
    obtain ⟨form, _, rfl, hform, h⟩ := List.map_eq_cons_iff.mp h
    obtain rfl := List.map_eq_nil_iff.mp h
    exact Or.inl ⟨hc, form, rfl, hform⟩
  · rename_i hc
    obtain ⟨high, _, rfl, hhigh, h⟩ := List.map_eq_cons_iff.mp h
    obtain ⟨low, _, rfl, hlow, h⟩ := List.map_eq_cons_iff.mp h
    obtain rfl := List.map_eq_nil_iff.mp h
    exact Or.inr ⟨Nat.le_of_not_lt hc, high, low, rfl, hhigh, hlow⟩

/-- Whichever way a character is written, it is read as its bytes. -/
theorem readStringFrom_writesChar (h : WritesChar c form) (done s : List UInt8) :
    readStringFrom done 0 (bytes form ++ s) =
      readStringFrom ((utf8EncodeChar c).reverse ++ done) 0 s := by
  cases h with
  | plain hc hq hb =>
    rw [bytes, List.flatMap_singleton]
    exact readStringFrom_plain (fun b hm ↦ isPlain_of_mem_utf8EncodeChar hc hq hb hm) done s
  | @letter letter hletter =>
    obtain ⟨hl, hc, hshort⟩ := shortEscape?_letter hletter
    have hread : readEscape (ascii letter :: s) = .ok (utf8EncodeChar c, 1) := by
      rw [readEscape, hshort, Utf8.utf8EncodeChar_of_ascii hc]
      rfl
    rw [bytes_cons_of_ascii (by decide), bytes_cons_of_ascii hl, Utf8.bytes_nil]
    exact readStringFrom_escape hread
  | @numbers forms hforms =>
    rcases codeUnits_cases hforms with ⟨hc, form, rfl, hform⟩ | ⟨hc, high, low, rfl, hhigh, hlow⟩
    · have hlength := (readCodeUnit_hexDigits hc hform s).1
      have hread := readNumbered_single hc hform s
      rw [← readEscape_numbered] at hread
      rw [List.flatMap_singleton, bytes_numbered, List.cons_append, List.cons_append,
        readStringFrom_escape hread, List.drop_succ_cons, ← hlength, List.drop_left]
    · have hvalid : c.toNat < 0xD800 ∨ 0xDFFF < c.toNat ∧ c.toNat < 0x110000 := c.valid
      have hlengthHigh := (readCodeUnit_hexDigits (by omega) hhigh s).1
      have hlengthLow := (readCodeUnit_hexDigits (by omega) hlow s).1
      have hread := readNumbered_pair hc hhigh hlow s
      rw [← readEscape_numbered] at hread
      have hbytes : bytes ([high, low].flatMap fun digits ↦ '\\' :: 'u' :: digits) ++ s =
          backslash :: ascii 'u' ::
            (bytes high ++ backslash :: ascii 'u' :: (bytes low ++ s)) := by
        simp [bytes_numbered]
      have hdrop : (ascii 'u' :: (bytes high ++ backslash :: ascii 'u' ::
          (bytes low ++ s))).drop 11 = s := by
        simp [List.drop_append, hlengthHigh, hlengthLow]
      rw [hbytes, readStringFrom_escape hread, hdrop]

theorem skipString_writesChar (h : WritesChar c form) (s : List UInt8) :
    skipString (bytes form ++ s) = skipString s := by
  cases h with
  | plain hc hq hb =>
    rw [bytes, List.flatMap_singleton]
    exact skipString_plain (fun b hm ↦ isPlain_of_mem_utf8EncodeChar hc hq hb hm) s
  | @letter letter hletter =>
    obtain ⟨hl, hc, hshort⟩ := shortEscape?_letter hletter
    have hskip : skipEscape (ascii letter :: s) = .ok 1 := by
      rw [skipEscape, hshort]
      rfl
    rw [bytes_cons_of_ascii (by decide), bytes_cons_of_ascii hl, Utf8.bytes_nil]
    exact skipString_escape hskip
  | @numbers forms hforms =>
    rcases codeUnits_cases hforms with ⟨hc, form, rfl, hform⟩ | ⟨hc, high, low, rfl, hhigh, hlow⟩
    · rw [List.flatMap_singleton, bytes_numbered]
      exact skipString_hexDigits hc hform s
    · have hvalid : c.toNat < 0xD800 ∨ 0xDFFF < c.toNat ∧ c.toNat < 0x110000 := c.valid
      have hbytes : bytes ([high, low].flatMap fun digits ↦ '\\' :: 'u' :: digits) ++ s =
          backslash :: ascii 'u' ::
            (bytes high ++ backslash :: ascii 'u' :: (bytes low ++ s)) := by
        simp [bytes_numbered]
      rw [hbytes, skipString_hexDigits (by omega) hhigh, skipString_hexDigits (by omega) hlow]

theorem readStringFrom_writesChars {cs form : List Char} (h : WritesChars cs form)
    (done s : List UInt8) :
    readStringFrom done 0 (bytes form ++ s) = readStringFrom ((bytes cs).reverse ++ done) 0 s := by
  induction h generalizing done with
  | nil => rfl
  | @cons c cs form forms hc hcs ih =>
    rw [Utf8.bytes_append, List.append_assoc, readStringFrom_writesChar hc, ih, Utf8.bytes_cons]
    simp

theorem skipString_writesChars {cs form : List Char} (h : WritesChars cs form) (s : List UInt8) :
    skipString (bytes form ++ s) = skipString s := by
  induction h with
  | nil => rfl
  | cons hc hcs ih => rw [Utf8.bytes_append, List.append_assoc, skipString_writesChar hc, ih]

theorem readString_writesChars {text : String} (h : WritesChars text.toList form)
    (s : List UInt8) : readString (bytes form ++ quote :: s) = .ok (text, s) := by
  have hread : readStringFrom [] 0 (bytes form ++ quote :: s) = .ok (Utf8.encode text, s) := by
    rw [readStringFrom_writesChars h, readStringFrom_quote]
    simp [Utf8.encode, bytes]
  simp [readString, hread, bind, Except.bind]

theorem writesChar_writeChar (c : Char) : WritesChar c (writeChar c) := by
  rw [writeChar]
  split
  · rename_i letter hletter
    exact .letter (Or.inl hletter)
  · rename_i hnone
    split
    · rename_i hc
      have hdigits : ∀ n < 0x20, ['0', '0', Nat.digitChar (n / 16), Nat.digitChar (n % 16)].map
          Char.toLower = hexDigits n := by decide
      have hunits : codeUnits c = [c.toNat] := if_pos (Nat.lt_trans hc (by decide))
      change WritesChar c
        ([['0', '0', Nat.digitChar (c.toNat / 16), Nat.digitChar (c.toNat % 16)]].flatMap
          fun digits ↦ '\\' :: 'u' :: digits)
      refine .numbers ?_
      rw [hunits, List.map_singleton, List.map_singleton, hdigits _ hc]
    · rename_i hc
      refine .plain (Nat.le_of_not_lt hc) ?_ ?_
      · rintro rfl
        cases hnone
      · rintro rfl
        cases hnone

theorem writesChars_writeChar (text : List Char) : WritesChars text (text.flatMap writeChar) := by
  induction text with
  | nil => exact .nil
  | cons c text ih => exact .cons (writesChar_writeChar c) ih

def stringBody (text : String) : List UInt8 :=
  (text.toList.flatMap writeChar).flatMap utf8EncodeChar ++ [quote]

theorem encode_writeString (text : String) :
    Utf8.encode (writeString text) = quote :: stringBody text := by
  have hq : Utf8.encode "\"" = [quote] := by decide
  rw [writeString, Utf8.encode_append, Utf8.encode_append, hq, Utf8.encode_ofList]
  rfl

theorem readString_stringBody (text : String) (s : List UInt8) :
    readString (stringBody text ++ s) = .ok (text, s) := by
  rw [stringBody, List.append_assoc]
  exact readString_writesChars (writesChars_writeChar text.toList) s

end Bulletin.Json
