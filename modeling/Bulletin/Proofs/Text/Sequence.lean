import Bulletin.Proofs.Text.Digits
import Bulletin.Text.Escape
import Mathlib.Data.List.TakeWhile
import Mathlib.Data.Option.Basic

namespace Bulletin.Escape

open Text

variable {c d letter : Char} {s digits meant : List Char} {n width : ℕ}

def shortForms : List (Char × Char) :=
  [('\n', 'n'), ('\t', 't'), ('\r', 'r'), ('\\', '\\'), ('\'', '\''), ('"', '"'), ('\x07', 'a'),
    ('\x08', 'b'), ('\x0c', 'f'), ('\x0b', 'v')]

def hexForms : List (Char × ℕ) :=
  [('x', 2), ('u', 4), ('U', 8)]

/-- A text begins with what makes an escape sequence of a backslash in front of it. -/
inductive IsSequence : List Char → Prop
  | short {c letter : Char} {s : List Char} (h : (c, letter) ∈ shortForms) :
      IsSequence (letter :: s)
  | newline {s : List Char} : IsSequence ('\n' :: s)
  | octal {d : Char} {n : ℕ} {s : List Char} (h : IsNumeral 8 [d] n) : IsSequence (d :: s)
  | byte {digits s : List Char} {n : ℕ} (hl : digits.length = 2) (h : IsNumeral 16 digits n) :
      IsSequence ('x' :: (digits ++ s))
  | scalar {c letter : Char} {digits s : List Char}
      (hl : (letter, digits.length) ∈ [('u', 4), ('U', 8)]) (h : IsNumeral 16 digits c.toNat) :
      IsSequence (letter :: (digits ++ s))

theorem simple?_eq_some_iff : simple? letter = some c ↔ (c, letter) ∈ shortForms := by
  refine ⟨fun h ↦ ?_, fun h ↦ ?_⟩
  · unfold simple? at h
    split at h <;> cases h <;> decide
  · simp only [shortForms, List.mem_cons, Prod.mk.injEq, List.not_mem_nil, or_false] at h
    rcases h with ⟨rfl, rfl⟩ | ⟨rfl, rfl⟩ | ⟨rfl, rfl⟩ | ⟨rfl, rfl⟩ | ⟨rfl, rfl⟩ | ⟨rfl, rfl⟩ |
      ⟨rfl, rfl⟩ | ⟨rfl, rfl⟩ | ⟨rfl, rfl⟩ | ⟨rfl, rfl⟩ <;> rfl

theorem hexWidth?_eq_some_iff : hexWidth? letter = some width ↔ (letter, width) ∈ hexForms := by
  refine ⟨fun h ↦ ?_, fun h ↦ ?_⟩
  · unfold hexWidth? at h
    split at h <;> cases h <;> decide
  · simp only [hexForms, List.mem_cons, Prod.mk.injEq, List.not_mem_nil, or_false] at h
    rcases h with ⟨rfl, rfl⟩ | ⟨rfl, rfl⟩ | ⟨rfl, rfl⟩ <;> rfl

def octalDigits (s : List Char) : List Char :=
  (s.take 3).takeWhile (isDigitIn 8)

theorem isDigitIn_of_mem_octalDigits (h : d ∈ octalDigits s) : isDigitIn 8 d :=
  List.mem_takeWhile_imp h

theorem octalDigits_isPrefix (s : List Char) : octalDigits s <+: s :=
  (List.takeWhile_prefix _).trans (List.take_prefix 3 s)

theorem length_octalDigits_le (s : List Char) : (octalDigits s).length ≤ 3 :=
  (List.takeWhile_prefix _).length_le.trans (List.length_take_le 3 s)

theorem exists_isNumeral_octalDigits (s : List Char) :
    ∃ c : Char, IsNumeral 8 (octalDigits s) c.toNat := by
  obtain ⟨n, hn⟩ :=
    (exists_isNumeral_iff (by decide)).mpr (fun d hd ↦ isDigitIn_of_mem_octalDigits (s := s) hd)
  have hlt : n < 8 ^ 3 :=
    Nat.lt_of_lt_of_le hn.lt (Nat.pow_le_pow_right (by decide) (length_octalDigits_le s))
  obtain ⟨c, rfl⟩ := exists_toNat_eq (Or.inl (Nat.lt_trans hlt (by decide)))
  exact ⟨c, hn⟩

theorem octal?_eq_some_iff : octal? s = some (meant, n) ↔ octalDigits s ≠ [] ∧
    ∃ c : Char, IsNumeral 8 (octalDigits s) c.toNat ∧ meant = [c] ∧
      n = (octalDigits s).length := by
  rw [octal?, ← octalDigits]
  cases octalDigits s with
  | nil => exact iff_of_false nofun (fun h ↦ h.1 rfl)
  | cons first digits =>
    constructor
    · intro h
      obtain ⟨c, hc, hvalue⟩ := Option.map_eq_some_iff.mp h
      obtain ⟨m, hm, hscalar⟩ := Option.bind_eq_some_iff.mp hc
      obtain ⟨rfl, rfl⟩ := Prod.mk.inj hvalue
      rw [number?_eq_some_iff (by decide), scalar?_eq_some_iff.mp hscalar] at hm
      exact ⟨List.cons_ne_nil _ _, c, hm, rfl, rfl⟩
    · rintro ⟨-, c, hc, rfl, rfl⟩
      simp only [(number?_eq_some_iff (by decide)).mpr hc, Option.bind_some,
        scalar?_eq_some_iff.mpr rfl, Option.map_some]

theorem octal?_cons_eq_none_iff : octal? (d :: s) = none ↔ ¬isDigitIn 8 d := by
  have hdigits : octalDigits (d :: s) = [] ↔ ¬isDigitIn 8 d := by
    rw [octalDigits, List.take_succ_cons, List.takeWhile_cons]
    split <;> simp_all
  rw [← hdigits]
  constructor
  · intro hnone
    by_contra hne
    obtain ⟨c, hc⟩ := exists_isNumeral_octalDigits (d :: s)
    rw [octal?_eq_some_iff.mpr ⟨hne, c, hc, rfl, rfl⟩] at hnone
    cases hnone
  · intro hnil
    exact Option.eq_none_iff_forall_ne_some.mpr (fun _ h ↦ (octal?_eq_some_iff.mp h).1 hnil)

theorem hex?_eq_some_iff : hex? s = some (meant, n) ↔
    ∃ (letter : Char) (digits : List Char) (c : Char), letter :: digits <+: s ∧
      (letter, digits.length) ∈ hexForms ∧ IsNumeral 16 digits c.toNat ∧ meant = [c] ∧
      n = digits.length + 1 := by
  constructor
  · intro h
    cases s with
    | nil => cases h
    | cons letter s =>
      rw [hex?] at h
      obtain ⟨width, hw, h⟩ := Option.bind_eq_some_iff.mp h
      obtain ⟨⟨⟩, hg, h⟩ := Option.bind_eq_some_iff.mp h
      obtain ⟨c, hc, hd⟩ := Option.bind_eq_some_iff.mp h
      obtain ⟨m, hm, hs⟩ := Option.bind_eq_some_iff.mp hc
      obtain ⟨rfl, rfl⟩ := Prod.mk.inj (Option.some.inj hd)
      have hlength : (s.take width).length = width := (Option.guard_eq_some' _).mp hg
      rw [number?_eq_some_iff (by decide), scalar?_eq_some_iff.mp hs] at hm
      rw [hexWidth?_eq_some_iff, ← hlength] at hw
      refine ⟨letter, s.take width, c, ?_, hw, hm, rfl, by rw [hlength]⟩
      exact List.cons_prefix_cons.mpr ⟨rfl, List.take_prefix width s⟩
  · rintro ⟨letter, digits, c, ⟨rest, rfl⟩, hw, hm, rfl, rfl⟩
    rw [List.cons_append, hex?, hexWidth?_eq_some_iff.mpr hw]
    simp [guard, (number?_eq_some_iff (by decide)).mpr hm, scalar?_eq_some_iff.mpr rfl]

theorem sequence?_short (h : (c, letter) ∈ shortForms) (s : List Char) :
    sequence? (letter :: s) = some ([c], 1) := by
  have hn : letter ≠ '\n' := by
    have hall : ∀ form ∈ shortForms, form.2 ≠ '\n' := by decide
    exact hall _ h
  rw [sequence?, simple?_eq_some_iff.mpr h]
  exact hn

theorem sequence?_cons (hn : c ≠ '\n') (hs : simple? c = none) (s : List Char) :
    sequence? (c :: s) = (octal? (c :: s)).or (hex? (c :: s)) := by
  rw [sequence?, hs]
  exact hn

theorem exists_cons_of_octal? {value : List Char × ℕ} (h : octal? s = some value) :
    ∃ d t, s = d :: t ∧ isDigitIn 8 d := by
  cases s with
  | nil => cases h
  | cons d t =>
    refine ⟨d, t, rfl, ?_⟩
    by_contra hd
    rw [octal?_cons_eq_none_iff.mpr hd] at h
    cases h

theorem sequence?_of_octal? {value : List Char × ℕ} (h : octal? s = some value) :
    sequence? s = some value := by
  obtain ⟨d, s, rfl, hd⟩ := exists_cons_of_octal? h
  rw [sequence?_cons, h, Option.some_or]
  · rintro rfl
    exact absurd hd (by decide)
  · cases hs : simple? d with
    | none => rfl
    | some c =>
      have hall : ∀ form ∈ shortForms, ¬isDigitIn 8 form.2 := by decide
      exact absurd hd (hall _ (simple?_eq_some_iff.mp hs))

theorem sequence?_of_hex? {value : List Char × ℕ} (h : hex? s = some value) :
    sequence? s = some value := by
  obtain ⟨letter, digits, c, ⟨t, rfl⟩, hl, -⟩ := hex?_eq_some_iff.mp h
  have hall : ∀ form ∈ hexForms, form.1 ≠ '\n' ∧ simple? form.1 = none ∧ ¬isDigitIn 8 form.1 := by
    decide
  obtain ⟨hn, hs, hd⟩ := hall _ hl
  rw [List.cons_append] at h ⊢
  rw [sequence?_cons hn hs, octal?_cons_eq_none_iff.mpr hd, h, Option.none_or]

/-- The sequences that are read, each by how it begins. -/
theorem sequence?_eq_some_iff : sequence? s = some (meant, n) ↔
    (['\n'] <+: s ∧ meant = [] ∧ n = 1) ∨
    (∃ c letter, (c, letter) ∈ shortForms ∧ [letter] <+: s ∧ meant = [c] ∧ n = 1) ∨
    octal? s = some (meant, n) ∨ hex? s = some (meant, n) := by
  constructor
  · intro h
    unfold sequence? at h
    split at h
    · cases h
    · cases h
      exact Or.inl ⟨List.prefix_append ['\n'] _, rfl, rfl⟩
    · split at h
      · rename_i hs
        cases h
        exact Or.inr (Or.inl ⟨_, _, simple?_eq_some_iff.mp hs, List.prefix_append [_] _, rfl, rfl⟩)
      · exact Or.inr (Or.inr ((Option.or_eq_some_iff.mp h).imp_right And.right))
  · rintro (⟨⟨t, rfl⟩, rfl, rfl⟩ | ⟨c, letter, hc, ⟨t, rfl⟩, rfl, rfl⟩ | h | h)
    · rfl
    · exact sequence?_short hc t
    · exact sequence?_of_octal? h
    · exact sequence?_of_hex? h

theorem IsSequence.of_octal? {value : List Char × ℕ} (h : octal? s = some value) :
    IsSequence s := by
  obtain ⟨d, s, rfl, hd⟩ := exists_cons_of_octal? h
  obtain ⟨n, hn⟩ := (exists_isNumeral_singleton_iff (by decide)).mpr hd
  exact .octal hn

theorem IsSequence.of_hex? {value : List Char × ℕ} (h : hex? s = some value) : IsSequence s := by
  obtain ⟨letter, digits, c, ⟨t, rfl⟩, hl, hn, -⟩ := hex?_eq_some_iff.mp h
  rcases List.mem_cons.mp hl with hx | hu
  · obtain ⟨rfl, hlength⟩ := Prod.mk.inj hx
    exact .byte hlength hn
  · exact .scalar hu hn

theorem sequence?_of_hexForm (hl : (letter, digits.length) ∈ hexForms)
    (hn : IsNumeral 16 digits c.toNat) (s : List Char) :
    sequence? (letter :: (digits ++ s)) = some ([c], digits.length + 1) :=
  sequence?_of_hex? (hex?_eq_some_iff.mpr
    ⟨letter, digits, c, List.prefix_append (letter :: digits) s, hl, hn, rfl, rfl⟩)

theorem IsSequence.exists_sequence? (h : IsSequence s) : ∃ value, sequence? s = some value := by
  cases h with
  | short h => exact ⟨_, sequence?_short h _⟩
  | newline => exact ⟨_, rfl⟩
  | @octal d n s h =>
    have hd : isDigitIn 8 d := (exists_isNumeral_singleton_iff (by decide)).mp ⟨n, h⟩
    have hsome : octal? (d :: s) ≠ none := fun hnone ↦ octal?_cons_eq_none_iff.mp hnone hd
    obtain ⟨value, hvalue⟩ := Option.ne_none_iff_exists'.mp hsome
    exact ⟨value, sequence?_of_octal? hvalue⟩
  | byte hl h =>
    have hlt := h.lt
    rw [hl] at hlt
    obtain ⟨c, rfl⟩ := exists_toNat_eq (Or.inl (Nat.lt_trans hlt (by decide)))
    exact ⟨_, sequence?_of_hexForm (hl ▸ List.mem_cons_self) h _⟩
  | scalar hl h => exact ⟨_, sequence?_of_hexForm (List.mem_cons_of_mem _ hl) h _⟩

theorem sequence?_eq_none_iff : sequence? s = none ↔ ¬IsSequence s := by
  constructor
  · intro h hs
    obtain ⟨value, hv⟩ := hs.exists_sequence?
    rw [h] at hv
    cases hv
  · intro hs
    refine Option.eq_none_iff_forall_ne_some.mpr (fun ⟨meant, n⟩ h ↦ hs ?_)
    rcases sequence?_eq_some_iff.mp h with ⟨⟨t, rfl⟩, -⟩ | ⟨c, letter, hc, ⟨t, rfl⟩, -⟩ | h | h
    · exact .newline
    · exact .short hc
    · exact .of_octal? h
    · exact .of_hex? h

end Bulletin.Escape
