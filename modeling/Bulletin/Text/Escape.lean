import Bulletin.Text.Digits
import Bulletin.Text.Scan

namespace Bulletin.Escape

open Text

def simple? : Char → Option Char
  | 'n' => some '\n'
  | 't' => some '\t'
  | 'r' => some '\r'
  | '\\' => some '\\'
  | '\'' => some '\''
  | '"' => some '"'
  | 'a' => some '\x07'
  | 'b' => some '\x08'
  | 'f' => some '\x0c'
  | 'v' => some '\x0b'
  | _ => none

def hexWidth? : Char → Option Nat
  | 'x' => some 2
  | 'u' => some 4
  | 'U' => some 8
  | _ => none

/-- One to three octal digits, as many as there are, name a character. -/
def octal? (s : List Char) : Option (List Char × Nat) :=
  match (s.take 3).takeWhile (isDigitIn 8) with
  | [] => none
  | digits => ((number? 8 digits).bind scalar?).map fun c ↦ ([c], digits.length)

def hex? : List Char → Option (List Char × Nat)
  | [] => none
  | letter :: s => do
    let width ← hexWidth? letter
    let digits := s.take width
    guard (digits.length = width)
    let c ← (number? 16 digits).bind scalar?
    some ([c], width + 1)

/-- What stands behind a backslash: the text it means, and how many characters say so. A newline
means nothing, which joins two lines. -/
def sequence? : List Char → Option (List Char × Nat)
  | [] => none
  | '\n' :: _ => some ([], 1)
  | c :: s =>
    match simple? c with
    | some d => some ([d], 1)
    | none => (octal? (c :: s)).or (hex? (c :: s))

def rule : Rule (List Char) := fun c s ↦
  if c = '\\' then sequence? s else none

/-- Replaces each escape sequence by the text it means, and keeps all else as written, a backslash
without a sequence included. -/
def decodeChars (s : List Char) : List Char :=
  render id (scan rule s)

def decode (s : String) : String :=
  String.ofList (decodeChars s.toList)

@[simp]
theorem toList_decode (s : String) : (decode s).toList = decodeChars s.toList :=
  String.toList_ofList

@[simp]
theorem decodeChars_nil : decodeChars [] = [] :=
  rfl

theorem decodeChars_cons_of_ne {c : Char} (h : c ≠ '\\') (s : List Char) :
    decodeChars (c :: s) = c :: decodeChars s := by
  have hr : rule c s = none := by simp [rule, h]
  rw [decodeChars, scan_cons_of_eq_none hr, render_plain, decodeChars]

theorem decodeChars_backslash_of_eq_none {s : List Char} (h : sequence? s = none) :
    decodeChars ('\\' :: s) = '\\' :: decodeChars s := by
  have hr : rule '\\' s = none := by simp [rule, h]
  rw [decodeChars, scan_cons_of_eq_none hr, render_plain, decodeChars]

theorem decodeChars_backslash_of_eq_some {s meant : List Char} {covered : Nat}
    (h : sequence? s = some (meant, covered)) :
    decodeChars ('\\' :: s) = meant ++ decodeChars (s.drop covered) := by
  have hr : rule '\\' s = some (meant, covered) := by simp [rule, h]
  rw [decodeChars, scan_cons_of_eq_some hr, render_found, id, decodeChars]

end Bulletin.Escape
