import Bulletin.Json.Fault
import Bulletin.Text.Digits
import Bulletin.Text.Utf8

namespace Bulletin.Json

def ascii (c : Char) : UInt8 :=
  c.toUInt8

def quote : UInt8 :=
  ascii '"'

def backslash : UInt8 :=
  ascii '\\'

def comma : UInt8 :=
  ascii ','

def isSpace (b : UInt8) : Bool :=
  b == ascii ' ' || b == ascii '\n' || b == ascii '\t' || b == ascii '\r'

def skipSpace (s : List UInt8) : List UInt8 :=
  s.dropWhile isSpace

def readWord : List UInt8 → List UInt8 → Except Fault (List UInt8)
  | [], s => .ok s
  | _ :: _, [] => .error (.here .endInValue [])
  | w :: word, b :: s => if b = w then readWord word s else .error (.here .expectedWord s)

def readCodeUnit (s : List UInt8) : Except Fault (Nat × List UInt8) :=
  let digits := s.take 4
  if digits.length < 4 then .error (.here .endInString [])
  else
    match Text.number? 16 (digits.map Char.ofUInt8) with
    | some n => .ok (n, s.drop 4)
    | none => .error (.here .invalidEscape (s.drop 4))

def isHighSurrogate (n : Nat) : Bool :=
  0xD800 ≤ n && n ≤ 0xDBFF

def isLowSurrogate (n : Nat) : Bool :=
  0xDC00 ≤ n && n ≤ 0xDFFF

def characterBytes (n : Nat) : List UInt8 :=
  String.utf8EncodeChar (Char.ofNat n)

def readPairByte (wanted : UInt8) : List UInt8 → Except Fault (List UInt8)
  | [] => .error (.here .endInString [])
  | b :: s => if b = wanted then .ok s else .error (.here .missingSurrogate s)

/-- The meaning of a numbered escape, and how many bytes after the backslash it takes. A number
that is half of a surrogate pair has to be a first half with the second right behind it. -/
def readNumbered (s : List UInt8) : Except Fault (List UInt8 × Nat) := do
  let (n, s) ← readCodeUnit s
  if isLowSurrogate n then
    .error (.here .loneSurrogate s)
  else if isHighSurrogate n then do
    let s ← readPairByte backslash s
    let s ← readPairByte (ascii 'u') s
    let (m, s) ← readCodeUnit s
    if isLowSurrogate m then
      .ok (characterBytes (0x10000 + (n - 0xD800) * 0x400 + (m - 0xDC00)), 11)
    else
      .error (.here .loneSurrogate s)
  else
    .ok (characterBytes n, 5)

def shortEscapes : List (Char × Char) :=
  [('"', '"'), ('\\', '\\'), ('/', '/'), ('b', '\x08'), ('f', '\x0c'), ('n', '\n'), ('r', '\r'),
    ('t', '\t')]

def shortEscape? (b : UInt8) : Option UInt8 :=
  (shortEscapes.find? fun (letter, _) ↦ ascii letter == b).map fun (_, c) ↦ ascii c

def readEscape : List UInt8 → Except Fault (List UInt8 × Nat)
  | [] => .error (.here .endInString [])
  | b :: s =>
    match shortEscape? b with
    | some c => .ok ([c], 1)
    | none => if b = ascii 'u' then readNumbered s else .error (.here .invalidEscape s)

/-- Reads the bytes of a string up to its closing quote, with the bytes read so far in `done`, the
latest first, and `covered` bytes still belonging to the last escape. -/
def readStringFrom (done : List UInt8) : Nat → List UInt8 →
    Except Fault (List UInt8 × List UInt8)
  | _, [] => .error (.here .endInString [])
  | covered + 1, _ :: s => readStringFrom done covered s
  | 0, b :: s =>
    if b = quote then .ok (done.reverse, s)
    else if b = backslash then
      match readEscape s with
      | .error fault => .error fault
      | .ok (meant, covered) => readStringFrom (meant.reverse ++ done) covered s
    else if b < 0x20 then .error (.here .controlCharacter s)
    else readStringFrom (b :: done) 0 s

def readString (s : List UInt8) : Except Fault (String × List UInt8) := do
  let (bytes, rest) ← readStringFrom [] 0 s
  match Utf8.decode? bytes with
  | some text => .ok (text, rest)
  | none =>
    .error { cause := .invalidUnicode, left := rest.length,
             back := bytes.length - Utf8.validLength bytes }

def skipEscape : List UInt8 → Except Fault Nat
  | [] => .error (.here .endInString [])
  | b :: s =>
    if (shortEscape? b).isSome then .ok 1
    else if b = ascii 'u' then (readCodeUnit s).map fun _ ↦ 5
    else .error (.here .invalidEscape s)

def skipStringFrom : Nat → List UInt8 → Except Fault (List UInt8)
  | _, [] => .error (.here .endInString [])
  | covered + 1, _ :: s => skipStringFrom covered s
  | 0, b :: s =>
    if b = quote then .ok s
    else if b = backslash then
      match skipEscape s with
      | .error fault => .error fault
      | .ok covered => skipStringFrom covered s
    else if b < 0x20 then .error (.here .controlCharacter (b :: s))
    else skipStringFrom 0 s

/-- Passes over a string after its opening quote, without asking what its bytes mean. -/
def skipString (s : List UInt8) : Except Fault (List UInt8) :=
  skipStringFrom 0 s

theorem length_skipSpace_le (s : List UInt8) : (skipSpace s).length ≤ s.length :=
  (List.dropWhile_suffix isSpace).length_le

theorem length_lt_of_readStringFrom {done bytes s rest : List UInt8} {covered : Nat}
    (h : readStringFrom done covered s = .ok (bytes, rest)) : rest.length < s.length := by
  induction s generalizing done covered with
  | nil => cases covered <;> simp [readStringFrom] at h
  | cons b s ih =>
    cases covered with
    | succ covered => exact Nat.lt_succ_of_lt (ih h)
    | zero =>
      rw [readStringFrom] at h
      split at h
      · simp_all
      · split at h
        · split at h
          · simp at h
          · exact Nat.lt_succ_of_lt (ih h)
        · split at h
          · simp at h
          · exact Nat.lt_succ_of_lt (ih h)

theorem length_lt_of_readString {s rest : List UInt8} {text : String}
    (h : readString s = .ok (text, rest)) : rest.length < s.length := by
  obtain ⟨⟨bytes, left⟩, hs, h⟩ := exists_of_bind_eq_ok h
  dsimp only at h
  split at h
  · cases h
    exact length_lt_of_readStringFrom hs
  · cases h

theorem length_lt_of_skipStringFrom {s rest : List UInt8} {covered : Nat}
    (h : skipStringFrom covered s = .ok rest) : rest.length < s.length := by
  induction s generalizing covered with
  | nil => cases covered <;> simp [skipStringFrom] at h
  | cons b s ih =>
    cases covered with
    | succ covered => exact Nat.lt_succ_of_lt (ih h)
    | zero =>
      rw [skipStringFrom] at h
      split at h
      · simp_all
      · split at h
        · split at h
          · simp at h
          · exact Nat.lt_succ_of_lt (ih h)
        · split at h
          · simp at h
          · exact Nat.lt_succ_of_lt (ih h)

end Bulletin.Json
