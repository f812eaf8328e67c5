import Bulletin.Text.Base64
import Bulletin.Text.Blank
import Mathlib.Algebra.Group.Nat.Defs
import Mathlib.Data.Option.Basic

namespace Bulletin.Base64

variable {c : Char} {s : List Char} {bytes : List UInt8} {i j m n : Nat}

theorem letter_mod (n : Nat) : letter (n % 64) = letter n := by
  rw [letter, letter, Nat.mod_mod]

theorem letterValue?_letter (n : Nat) : letterValue? (letter n) = some (n % 64) := by
  have h : ∀ m < 64, letterValue? (letter m) = some m := by decide +kernel
  rw [← letter_mod, h _ (Nat.mod_lt _ (by decide))]

theorem letter_ne {c : Char} (hc : letterValue? c = none) (n : Nat) : letter n ≠ c := by
  intro h
  have hn := letterValue?_letter n
  rw [h, hc] at hn
  cases hn

theorem letter_ne_pad (n : Nat) : letter n ≠ pad :=
  letter_ne (by decide +kernel) n

theorem byte_eq {a : UInt8} {n : Nat} (h : n % 256 = a.toNat) : byte n = a := by
  rw [← UInt8.toNat_inj, byte, UInt8.toNat_ofNat', h]

theorem two_sextets {n : Nat} (h : n < 4096) : n / 64 % 64 * 64 + n % 64 = n := by
  omega

theorem three_sextets {n : Nat} (h : n < 262144) :
    (n / 4096 % 64 * 64 + n / 64 % 64) * 64 + n % 64 = n := by
  omega

theorem four_sextets {n : Nat} (h : n < 16777216) :
    ((n / 262144 % 64 * 64 + n / 4096 % 64) * 64 + n / 64 % 64) * 64 + n % 64 = n := by
  omega

theorem decodePadded?_pad {w x : Char} {m n : Nat} (hw : letterValue? w = some m)
    (hx : letterValue? x = some n) (h : (m * 64 + n) % 16 = 0) :
    decodePadded? w x pad = some [byte ((m * 64 + n) / 16)] := by
  have hpass : (guard ((m * 64 + n) % 16 = 0) : Option Unit) = some () :=
    (Option.guard_eq_some' ()).mpr h
  rw [decodePadded?, if_pos rfl, hw, hx]
  exact congrArg (Option.bind · _) hpass

theorem decodePadded?_of_ne_pad {w x y : Char} {l m n : Nat} (hy : y ≠ pad)
    (hw : letterValue? w = some l) (hx : letterValue? x = some m) (hv : letterValue? y = some n)
    (h : ((l * 64 + m) * 64 + n) % 4 = 0) : decodePadded? w x y =
      some [byte (((l * 64 + m) * 64 + n) / 1024), byte (((l * 64 + m) * 64 + n) / 4)] := by
  have hpass : (guard (((l * 64 + m) * 64 + n) % 4 = 0) : Option Unit) = some () :=
    (Option.guard_eq_some' ()).mpr h
  rw [decodePadded?, if_neg hy, hw, hx, hv]
  exact congrArg (Option.bind · _) hpass

theorem decode?_encode (bytes : List UInt8) : decode? (encode bytes) = some bytes := by
  induction bytes using encode.induct with
  | case1 => rfl
  | case2 a =>
    have ha := a.toNat_lt
    have hn := two_sextets (show a.toNat * 16 < 4096 by omega)
    rw [encode, decode?, if_pos ⟨rfl, rfl⟩, decodePadded?_pad (letterValue?_letter _)
      (letterValue?_letter _) (by omega), hn, byte_eq (a := a) (by omega)]
  | case3 a b =>
    have ha := a.toNat_lt
    have hb := b.toNat_lt
    have hn := three_sextets (show (a.toNat * 256 + b.toNat) * 4 < 262144 by omega)
    rw [encode, decode?, if_pos ⟨rfl, rfl⟩, decodePadded?_of_ne_pad (letter_ne_pad _)
      (letterValue?_letter _) (letterValue?_letter _) (letterValue?_letter _) (by omega), hn,
      byte_eq (a := a) (by omega), byte_eq (a := b) (by omega)]
  | case4 a b c rest ih =>
    have ha := a.toNat_lt
    have hb := b.toNat_lt
    have hc := c.toNat_lt
    have hfirst : byte (((a.toNat * 256 + b.toNat) * 256 + c.toNat) / 65536) = a :=
      byte_eq (by omega)
    have hsecond : byte (((a.toNat * 256 + b.toNat) * 256 + c.toNat) / 256) = b :=
      byte_eq (by omega)
    have hthird : byte ((a.toNat * 256 + b.toNat) * 256 + c.toNat) = c := byte_eq (by omega)
    simp [encode, decode?, letterValue?_letter, letter_ne_pad, ih,
      four_sextets (n := (a.toNat * 256 + b.toNat) * 256 + c.toNat) (by omega), hfirst, hsecond,
      hthird]

theorem newline_not_mem_encode (bytes : List UInt8) : '\n' ∉ encode bytes := by
  have hletter (n : Nat) : '\n' ≠ letter n := (letter_ne (by decide +kernel) n).symm
  have hpad : '\n' ≠ pad := by decide
  induction bytes using encode.induct with
  | case1 => exact List.not_mem_nil
  | case2 a => simp [encode, hletter, hpad]
  | case3 a b => simp [encode, hletter, hpad]
  | case4 a b c rest ih => simp [encode, hletter, ih]

/-- The lowest bits of a number, as many as given, from the highest of them on. -/
def bits : Nat → Nat → List Bool
  | 0, _ => []
  | width + 1, n => n.testBit width :: bits width n

theorem length_bits (i n : Nat) : (bits i n).length = i := by
  induction i with
  | zero => rfl
  | succ i ih => rw [bits, List.length_cons, ih]

theorem bits_eq_iff : bits i m = bits i n ↔ ∀ k < i, m.testBit k = n.testBit k := by
  induction i with
  | zero => simp [bits]
  | succ i ih =>
    rw [bits, bits, List.cons.injEq, ih]
    constructor
    · rintro ⟨hlast, h⟩ k hk
      rcases Nat.lt_succ_iff_lt_or_eq.mp hk with hk | rfl
      · exact h k hk
      · exact hlast
    · intro h
      exact ⟨h i i.lt_succ_self, fun k hk ↦ h k (Nat.lt_succ_of_lt hk)⟩

theorem bits_zero (i : Nat) : bits i 0 = List.replicate i false := by
  induction i with
  | zero => rfl
  | succ i ih => rw [bits, ih, Nat.zero_testBit, List.replicate_succ]

theorem bits_add (i j n : Nat) : bits (i + j) n = bits i (n / 2 ^ j) ++ bits j n := by
  induction i with
  | zero => rw [Nat.zero_add, bits, List.nil_append]
  | succ i ih => rw [Nat.succ_add, bits, bits, ih, Nat.testBit_div_two_pow, List.cons_append]

theorem bits_mul_add (i m : Nat) (h : n < 2 ^ j) :
    bits (i + j) (m * 2 ^ j + n) = bits i m ++ bits j n := by
  have hhigh : (2 ^ j * m + n) / 2 ^ j = m := by
    rw [Nat.mul_add_div (Nat.two_pow_pos j), Nat.div_eq_of_lt h, Nat.add_zero]
  have hlow : bits j (2 ^ j * m + n) = bits j n :=
    bits_eq_iff.mpr (fun k hk ↦ by rw [Nat.testBit_two_pow_mul_add m h, if_pos hk])
  rw [Nat.mul_comm, bits_add, hhigh, hlow]

theorem bits_mul (i j m : Nat) : bits (i + j) (m * 2 ^ j) = bits i m ++ List.replicate j false := by
  have h := bits_mul_add i m (Nat.two_pow_pos j)
  rwa [Nat.add_zero, bits_zero] at h

theorem bits_two_sextets (n : Nat) : bits 12 n = bits 6 (n / 64) ++ bits 6 n :=
  bits_add 6 6 n

theorem bits_three_sextets (n : Nat) :
    bits 18 n = bits 6 (n / 4096) ++ (bits 6 (n / 64) ++ bits 6 n) := by
  rw [← bits_two_sextets]
  exact bits_add 6 12 n

theorem bits_four_sextets (n : Nat) : bits 24 n =
    bits 6 (n / 262144) ++ (bits 6 (n / 4096) ++ (bits 6 (n / 64) ++ bits 6 n)) := by
  rw [← bits_three_sextets]
  exact bits_add 6 18 n

theorem bits_two_bytes (a b : UInt8) :
    bits 16 (a.toNat * 256 + b.toNat) = bits 8 a.toNat ++ bits 8 b.toNat :=
  bits_mul_add 8 a.toNat b.toNat_lt

theorem bits_three_bytes (a b c : UInt8) : bits 24 ((a.toNat * 256 + b.toNat) * 256 + c.toNat) =
    bits 8 a.toNat ++ (bits 8 b.toNat ++ bits 8 c.toNat) := by
  rw [← List.append_assoc, ← bits_two_bytes]
  exact bits_mul_add 16 (a.toNat * 256 + b.toNat) c.toNat_lt

/-- The standard form of some bytes: letters for their bits, six in each, with zeros to fill the
last one, and behind them a pad for every two of these zeros. -/
def IsFormOf (s : List Char) (bytes : List UInt8) : Prop :=
  ∃ (values : List Nat) (pads : Nat), s = values.map letter ++ List.replicate pads pad ∧
    values.flatMap (bits 6) = bytes.flatMap (bits 8 ·.toNat) ++ List.replicate (2 * pads) false ∧
    pads ≤ 2

theorem isFormOf_encode (bytes : List UInt8) : IsFormOf (encode bytes) bytes := by
  induction bytes using encode.induct with
  | case1 => exact ⟨[], 0, rfl, rfl, by decide⟩
  | case2 a =>
    have hbits : bits 12 (a.toNat * 16) = bits 8 a.toNat ++ List.replicate 4 false :=
      bits_mul 8 4 a.toNat
    rw [bits_two_sextets] at hbits
    exact ⟨[a.toNat * 16 / 64, a.toNat * 16], 2, rfl, by simpa using hbits, by decide⟩
  | case3 a b =>
    have hbits : bits 18 ((a.toNat * 256 + b.toNat) * 4) =
        bits 16 (a.toNat * 256 + b.toNat) ++ List.replicate 2 false := bits_mul 16 2 _
    rw [bits_three_sextets, bits_two_bytes] at hbits
    exact ⟨[_, _, _], 1, rfl, by simpa using hbits, by decide⟩
  | case4 a b c rest ih =>
    obtain ⟨values, pads, hs, hrest, hpads⟩ := ih
    have hbits := bits_three_bytes a b c
    rw [bits_four_sextets] at hbits
    refine ⟨_ :: _ :: _ :: _ :: values, pads, by rw [encode, hs]; rfl, ?_, hpads⟩
    simp only [List.flatMap_cons, hrest, ← List.append_assoc] at hbits ⊢
    rw [hbits]

theorem length_encode (bytes : List UInt8) :
    (encode bytes).length = 4 * ((bytes.length + 2) / 3) := by
  induction bytes using encode.induct with
  | case1 => rfl
  | case2 a => simp [encode]
  | case3 a b => simp [encode]
  | case4 a b c rest ih =>
    rw [encode]
    simp only [List.length_cons, ih]
    omega

theorem letter_congr (h : bits 6 m = bits 6 n) : letter m = letter n := by
  have hmod : m % 64 = n % 64 := by
    apply Nat.eq_of_testBit_eq
    intro k
    change (m % 2 ^ 6).testBit k = (n % 2 ^ 6).testBit k
    rw [Nat.testBit_mod_two_pow, Nat.testBit_mod_two_pow]
    by_cases hk : k < 6
    · rw [bits_eq_iff.mp h k hk]
    · rw [decide_eq_false hk, Bool.false_and, Bool.false_and]
  rw [← letter_mod m, hmod, letter_mod]

theorem map_letter_congr {ms ns : List Nat} (h : ms.flatMap (bits 6) = ns.flatMap (bits 6)) :
    ms.map letter = ns.map letter := by
  induction ms generalizing ns with
  | nil =>
    cases ns with
    | nil => rfl
    | cons n ns => cases h
  | cons m ms ih =>
    cases ns with
    | nil => cases h
    | cons n ns =>
      obtain ⟨hfirst, hrest⟩ := List.append_inj h (by rw [length_bits, length_bits])
      rw [List.map_cons, List.map_cons, letter_congr hfirst, ih hrest]

theorem IsFormOf.unique {t : List Char} (hs : IsFormOf s bytes) (ht : IsFormOf t bytes) :
    s = t := by
  obtain ⟨ms, i, rfl, hms, hi⟩ := hs
  obtain ⟨ns, j, rfl, hns, hj⟩ := ht
  have hm : ms.length * 6 = bytes.length * 8 + 2 * i := by
    simpa [length_bits, List.map_const', List.sum_replicate_nat] using congrArg List.length hms
  have hn : ns.length * 6 = bytes.length * 8 + 2 * j := by
    simpa [length_bits, List.map_const', List.sum_replicate_nat] using congrArg List.length hns
  obtain rfl : i = j := by omega
  rw [map_letter_congr (hms.trans hns.symm)]

theorem isFormOf_iff : IsFormOf s bytes ↔ s = encode bytes := by
  constructor
  · intro h
    exact h.unique (isFormOf_encode bytes)
  · rintro rfl
    exact isFormOf_encode bytes

theorem letter_mem_alphabet (n : Nat) : letter n ∈ alphabet := by
  have hn : n % 64 < alphabet.length := Nat.mod_lt _ (by decide)
  rw [letter, List.getD_eq_getElem?_getD, List.getElem?_eq_getElem hn, Option.getD_some]
  exact List.getElem_mem hn

theorem isBlank_eq_false_of_mem_alphabet (h : c ∈ alphabet) : Text.isBlank c = false := by
  have hall : ∀ c ∈ alphabet, Text.isBlank c = false := by decide +kernel
  exact hall c h

theorem pad_not_mem_alphabet : pad ∉ alphabet := by
  decide +kernel

theorem IsFormOf.exists_letters (h : IsFormOf s bytes) : ∃ letters pads,
    s = letters ++ List.replicate pads pad ∧ pads ≤ 2 ∧ ∀ c ∈ letters, c ∈ alphabet := by
  obtain ⟨values, pads, hs, -, hpads⟩ := h
  refine ⟨values.map letter, pads, hs, hpads, fun c hc ↦ ?_⟩
  obtain ⟨n, -, rfl⟩ := List.mem_map.mp hc
  exact letter_mem_alphabet n

theorem letter_of_letterValue? (h : letterValue? c = some n) : n < 64 ∧ letter n = c := by
  obtain ⟨hn, hc, -⟩ := List.findIdx?_eq_some_iff_getElem.mp h
  have hlt : n < 64 := hn
  refine ⟨hlt, ?_⟩
  rw [letter, Nat.mod_eq_of_lt hlt, List.getD_eq_getElem?_getD, List.getElem?_eq_getElem hn,
    Option.getD_some]
  exact of_decide_eq_true hc

theorem letter_mul_add (h : letterValue? c = some n) (m : Nat) : letter (m * 64 + n) = c := by
  rw [← letter_mod, Nat.mul_add_mod_self_right, letter_mod]
  exact (letter_of_letterValue? h).2

theorem encode_of_decodePadded? {w x y : Char} (h : decodePadded? w x y = some bytes) :
    encode bytes = [w, x, y, pad] := by
  rw [decodePadded?] at h
  by_cases hy : y = pad
  · rw [if_pos hy] at h
    obtain ⟨k, hw, h⟩ := Option.bind_eq_some_iff.mp h
    obtain ⟨m, hx, h⟩ := Option.bind_eq_some_iff.mp h
    obtain ⟨_, hg, h⟩ := Option.bind_eq_some_iff.mp h
    obtain ⟨hk, hkw⟩ := letter_of_letterValue? hw
    have hm := (letter_of_letterValue? hx).1
    have hzero := (Option.guard_eq_some' _).mp hg
    cases h
    have hn : (byte ((k * 64 + m) / 16)).toNat * 16 = k * 64 + m := by
      simp only [byte, UInt8.toNat_ofNat']
      omega
    have hfirst : (k * 64 + m) / 64 = k := by omega
    simp only [encode, hn, hfirst, hkw, letter_mul_add hx, hy]
  · rw [if_neg hy] at h
    obtain ⟨k, hw, h⟩ := Option.bind_eq_some_iff.mp h
    obtain ⟨m, hx, h⟩ := Option.bind_eq_some_iff.mp h
    obtain ⟨n, hv, h⟩ := Option.bind_eq_some_iff.mp h
    obtain ⟨_, hg, h⟩ := Option.bind_eq_some_iff.mp h
    obtain ⟨hk, hkw⟩ := letter_of_letterValue? hw
    have hm := (letter_of_letterValue? hx).1
    have hl := (letter_of_letterValue? hv).1
    have hzero := (Option.guard_eq_some' _).mp hg
    cases h
    have hn : ((byte (((k * 64 + m) * 64 + n) / 1024)).toNat * 256 +
        (byte (((k * 64 + m) * 64 + n) / 4)).toNat) * 4 = (k * 64 + m) * 64 + n := by
      simp only [byte, UInt8.toNat_ofNat']
      omega
    have hfirst : ((k * 64 + m) * 64 + n) / 4096 = k := by omega
    have hsecond : ((k * 64 + m) * 64 + n) / 64 = k * 64 + m := by omega
    simp only [encode, hn, hfirst, hsecond, hkw, letter_mul_add hx, letter_mul_add hv]

theorem encode_of_decode? (h : decode? s = some bytes) : encode bytes = s := by
  induction s using decode?.induct generalizing bytes with
  | case1 =>
    cases h
    rfl
  | case2 w x y z rest hz =>
    obtain ⟨rfl, rfl⟩ := hz
    rw [decode?, if_pos ⟨rfl, rfl⟩] at h
    exact encode_of_decodePadded? h
  | case3 w x y z rest hz ih =>
    rw [decode?, if_neg hz] at h
    obtain ⟨k, hw, h⟩ := Option.bind_eq_some_iff.mp h
    obtain ⟨m, hx, h⟩ := Option.bind_eq_some_iff.mp h
    obtain ⟨n, hv, h⟩ := Option.bind_eq_some_iff.mp h
    obtain ⟨o, hu, h⟩ := Option.bind_eq_some_iff.mp h
    obtain ⟨tail, ht, h⟩ := Option.bind_eq_some_iff.mp h
    obtain ⟨hk, hkw⟩ := letter_of_letterValue? hw
    have hm := (letter_of_letterValue? hx).1
    have hl := (letter_of_letterValue? hv).1
    have ho := (letter_of_letterValue? hu).1
    cases h
    have hn : ((byte ((((k * 64 + m) * 64 + n) * 64 + o) / 65536)).toNat * 256 +
        (byte ((((k * 64 + m) * 64 + n) * 64 + o) / 256)).toNat) * 256 +
        (byte (((k * 64 + m) * 64 + n) * 64 + o)).toNat = ((k * 64 + m) * 64 + n) * 64 + o := by
      simp only [byte, UInt8.toNat_ofNat']
      omega
    have hfirst : (((k * 64 + m) * 64 + n) * 64 + o) / 262144 = k := by omega
    have hsecond : (((k * 64 + m) * 64 + n) * 64 + o) / 4096 = k * 64 + m := by omega
    have hthird : (((k * 64 + m) * 64 + n) * 64 + o) / 64 = (k * 64 + m) * 64 + n := by omega
    simp only [encode, hn, hfirst, hsecond, hthird, hkw, letter_mul_add hx, letter_mul_add hv,
      letter_mul_add hu, ih ht]
  | case4 s hnil hcons =>
    rw [decode?] at h
    · cases h
    · exact hnil
    · exact hcons

theorem decode?_eq_some_iff : decode? s = some bytes ↔ s = encode bytes := by
  constructor
  · intro h
    exact (encode_of_decode? h).symm
  · rintro rfl
    exact decode?_encode bytes

end Bulletin.Base64
