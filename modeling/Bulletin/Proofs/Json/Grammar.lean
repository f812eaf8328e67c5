import Bulletin.Json.Writer

namespace Bulletin.Json

/-- What a JSON text says. A number is kept as it is written. -/
inductive Value
  | null
  | boolean (b : Bool)
  | number (digits : String)
  | string (s : String)
  | list (items : List Value)
  | object (members : List (String × Value))

-- There is an instance for all characters that would be found first, and it goes through them all.
instance decidableForallMem (p : Char → Prop) [DecidablePred p] (s : List Char) :
    Decidable (∀ c ∈ s, p c) :=
  List.decidableBAll p s

def spaces : List Char :=
  [' ', '\n', '\r', '\t']

def IsSpace (s : List Char) : Prop :=
  ∀ c ∈ s, c ∈ spaces

instance (s : List Char) : Decidable (IsSpace s) :=
  inferInstanceAs (Decidable (∀ c ∈ s, c ∈ spaces))

def codeUnits (c : Char) : List Nat :=
  if c.toNat < 0x10000 then [c.toNat]
  else [0xD800 + (c.toNat - 0x10000) / 0x400, 0xDC00 + (c.toNat - 0x10000) % 0x400]

def hexDigits (n : Nat) : List Char :=
  [n / 0x1000 % 0x10, n / 0x100 % 0x10, n / 0x10 % 0x10, n % 0x10].map Nat.digitChar

/-- The ways to write a character inside a string: as it is, by a letter after a backslash, or by
the numbers of its code units with their digits in either case. -/
inductive WritesChar (c : Char) : List Char → Prop
  | plain (hc : 0x20 ≤ c.toNat) (hq : c ≠ '"') (hb : c ≠ '\\') : WritesChar c [c]
  | letter {letter : Char} (h : shortForm? c = some letter ∨ c = '/' ∧ letter = '/') :
      WritesChar c ['\\', letter]
  | numbers {forms : List (List Char)}
      (h : forms.map (·.map Char.toLower) = (codeUnits c).map hexDigits) :
      WritesChar c (forms.flatMap fun digits ↦ '\\' :: 'u' :: digits)

inductive WritesChars : List Char → List Char → Prop
  | nil : WritesChars [] []
  | cons {c : Char} {cs s t : List Char} (hc : WritesChar c s) (hcs : WritesChars cs t) :
      WritesChars (c :: cs) (s ++ t)

inductive WritesString (text : String) : List Char → Prop
  | quoted {s : List Char} (h : WritesChars text.toList s) : WritesString text ('"' :: s ++ ['"'])

def IsDigits (s : List Char) : Prop :=
  s ≠ [] ∧ ∀ c ∈ s, c.isDigit

instance (s : List Char) : Decidable (IsDigits s) :=
  inferInstanceAs (Decidable (_ ∧ _))

inductive IsFraction : List Char → Prop
  | none : IsFraction []
  | digits {s : List Char} (h : IsDigits s) : IsFraction ('.' :: s)

inductive IsExponent : List Char → Prop
  | none : IsExponent []
  | digits {mark : Char} {sign s : List Char} (hm : mark ∈ ['e', 'E'])
      (hs : sign ∈ [[], ['+'], ['-']]) (h : IsDigits s) : IsExponent (mark :: sign ++ s)

/-- A number has no zero in front of its other digits. -/
inductive IsNumber : List Char → Prop
  | signed {sign whole fraction exponent : List Char} (hs : sign ∈ [[], ['-']])
      (hw : IsDigits whole) (hz : whole.head? = some '0' → whole = ['0'])
      (hf : IsFraction fraction) (he : IsExponent exponent) :
      IsNumber (sign ++ whole ++ fraction ++ exponent)

/-- The parts of a JSON text, by what they say. An element is a value between blanks. -/
inductive Part
  | value (v : Value)
  | element (v : Value)
  | elements (vs : List Value)
  | member (m : String × Value)
  | members (ms : List (String × Value))

inductive Writes : Part → List Char → Prop
  | null : Writes (.value .null) "null".toList
  | true : Writes (.value (.boolean true)) "true".toList
  | false : Writes (.value (.boolean false)) "false".toList
  | number {s : List Char} (h : IsNumber s) : Writes (.value (.number (String.ofList s))) s
  | string {text : String} {s : List Char} (h : WritesString text s) :
      Writes (.value (.string text)) s
  | emptyList {b : List Char} (hb : IsSpace b) : Writes (.value (.list [])) ('[' :: b ++ [']'])
  | list {vs : List Value} {s : List Char} (h : Writes (.elements vs) s) :
      Writes (.value (.list vs)) ('[' :: s ++ [']'])
  | emptyObject {b : List Char} (hb : IsSpace b) :
      Writes (.value (.object [])) ('{' :: b ++ ['}'])
  | object {ms : List (String × Value)} {s : List Char} (h : Writes (.members ms) s) :
      Writes (.value (.object ms)) ('{' :: s ++ ['}'])
  | element {v : Value} {b s a : List Char} (hb : IsSpace b) (h : Writes (.value v) s)
      (ha : IsSpace a) : Writes (.element v) (b ++ s ++ a)
  | lastElement {v : Value} {s : List Char} (h : Writes (.element v) s) : Writes (.elements [v]) s
  | moreElements {v : Value} {vs : List Value} {s t : List Char} (h : Writes (.element v) s)
      (hs : Writes (.elements vs) t) : Writes (.elements (v :: vs)) (s ++ ',' :: t)
  | member {key : String} {v : Value} {b k a s : List Char} (hb : IsSpace b)
      (hk : WritesString key k) (ha : IsSpace a) (h : Writes (.element v) s) :
      Writes (.member (key, v)) (b ++ k ++ a ++ ':' :: s)
  | lastMember {m : String × Value} {s : List Char} (h : Writes (.member m) s) :
      Writes (.members [m]) s
  | moreMembers {m : String × Value} {ms : List (String × Value)} {s t : List Char}
      (h : Writes (.member m) s) (hs : Writes (.members ms) t) :
      Writes (.members (m :: ms)) (s ++ ',' :: t)

def IsTextOf (v : Value) (text : String) : Prop :=
  Writes (.element v) text.toList

end Bulletin.Json
