import Bulletin.Proofs.Text.Sequence
import Mathlib.Data.List.Forall2

namespace Bulletin.Escape

open Text

variable {c : Char} {s form digits : List Char} {forms : List (List Char)}

/-- The ways to write a character in a text with escape sequences: as it is, by a letter of its own,
or by its number in octal or hexadecimal digits. -/
inductive Spells (c : Char) : List Char → Prop
  | plain (h : c ≠ '\\') : Spells c [c]
  | short {letter : Char} (h : (c, letter) ∈ shortForms) : Spells c ['\\', letter]
  | octal {digits : List Char} (hl : digits.length = 3) (h : IsNumeral 8 digits c.toNat) :
      Spells c ('\\' :: digits)
  | hex {letter : Char} {digits : List Char} (hl : (letter, digits.length) ∈ hexForms)
      (h : IsNumeral 16 digits c.toNat) : Spells c ('\\' :: letter :: digits)

def doubled (s : String) : String :=
  String.ofList (s.toList.flatMap fun c ↦ if c = '\\' then ['\\', '\\'] else [c])

theorem octalDigits_append (hl : digits.length = 3) (h : IsNumeral 8 digits c.toNat)
    (s : List Char) : octalDigits (digits ++ s) = digits := by
  have hdigits := (exists_isNumeral_iff (by decide)).mp ⟨_, h⟩
  rw [octalDigits, List.take_left' hl]
  exact List.takeWhile_eq_self_iff.mpr hdigits

theorem sequence?_octal (hl : digits.length = 3) (h : IsNumeral 8 digits c.toNat) (s : List Char) :
    sequence? (digits ++ s) = some ([c], 3) := by
  have hdigits := octalDigits_append hl h s
  have hne : digits ≠ [] := List.ne_nil_of_length_eq_add_one hl
  refine sequence?_of_octal? (octal?_eq_some_iff.mpr ?_)
  rw [hdigits]
  exact ⟨hne, c, h, rfl, hl.symm⟩

theorem decodeChars_spells (h : Spells c form) (s : List Char) :
    decodeChars (form ++ s) = c :: decodeChars s := by
  cases h with
  | plain h => exact decodeChars_cons_of_ne h s
  | short h => exact decodeChars_backslash_of_eq_some (sequence?_short h s)
  | @octal digits hl h =>
    rw [List.cons_append, decodeChars_backslash_of_eq_some (sequence?_octal hl h s), ← hl,
      List.drop_left]
    rfl
  | @hex letter digits hl h =>
    have hdrop : (letter :: (digits ++ s)).drop (digits.length + 1) = s := List.drop_left
    rw [List.cons_append, List.cons_append,
      decodeChars_backslash_of_eq_some (sequence?_of_hexForm hl h s), hdrop]
    rfl

theorem decodeChars_flatten (h : List.Forall₂ Spells s forms) : decodeChars forms.flatten = s := by
  induction h with
  | nil => rfl
  | cons hc _ ih => rw [List.flatten_cons, decodeChars_spells hc, ih]

theorem spells_doubled (c : Char) : Spells c (if c = '\\' then ['\\', '\\'] else [c]) := by
  split
  · rename_i hc
    rw [hc]
    exact .short (by decide)
  · rename_i hc
    exact .plain hc

/-- A text comes back from any way of spelling its characters one by one, in particular from the
one that only doubles its backslashes. -/
theorem decode_spelled (s : String) :
    (∀ forms, List.Forall₂ Spells s.toList forms → decode (String.ofList forms.flatten) = s) ∧
      decode (doubled s) = s := by
  have hspelled (forms : List (List Char)) (h : List.Forall₂ Spells s.toList forms) :
      decode (String.ofList forms.flatten) = s := by
    rw [decode, String.toList_ofList, decodeChars_flatten h, String.ofList_toList]
  refine ⟨hspelled, ?_⟩
  rw [doubled, List.flatMap_def]
  refine hspelled _ (List.forall₂_map_right_iff.mpr (List.forall₂_same.mpr ?_))
  exact fun c _ ↦ spells_doubled c

/-- Behind each spelling there is a character that could go on with it. -/
theorem decode_spelled_mixed :
    let s := "A7\\nÿa\n\"😀0"
    let forms := [['\\', '1', '0', '1'], ['7'], ['\\', '\\'], ['n'], ['\\', 'x', 'f', 'F'], ['a'],
      ['\n'], ['\\', '"'], ['\\', 'U', '0', '0', '0', '1', 'F', '6', '0', '0'],
      ['\\', 'u', '0', '0', '3', '0']]
    List.Forall₂ Spells s.toList forms ∧ decode (String.ofList forms.flatten) = s := by
  intro s forms
  have hs : s.toList = ['A', '7', '\\', 'n', 'ÿ', 'a', '\n', '"', '😀', '0'] := by decide +kernel
  have h : List.Forall₂ Spells s.toList forms := by
    rw [hs]
    refine .cons (.octal rfl (by decide)) (.cons (.plain (by decide)) ?_)
    refine .cons (.short (by decide)) (.cons (.plain (by decide)) ?_)
    refine .cons (.hex (by decide) (by decide)) (.cons (.plain (by decide)) ?_)
    refine .cons (.plain (by decide)) (.cons (.short (by decide)) ?_)
    exact .cons (.hex (by decide) (by decide)) (.cons (.hex (by decide) (by decide)) .nil)
  exact ⟨h, (decode_spelled s).1 forms h⟩

end Bulletin.Escape
