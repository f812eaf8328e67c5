import Bulletin.Json.Token

namespace Bulletin.Json

def digit? (b : UInt8) : Option Nat :=
  Text.digitValue? 10 (Char.ofUInt8 b)

def isDigit (b : UInt8) : Bool :=
  (digit? b).isSome

def startsWithDigit (s : List UInt8) : Bool :=
  s.head?.any isDigit

def isExponentMark (b : UInt8) : Bool :=
  b == ascii 'e' || b == ascii 'E'

def isSign (b : UInt8) : Bool :=
  b == ascii '+' || b == ascii '-'

def maxSignificand : Nat :=
  0xFFFFFFFFFFFFFFFF

def maxNegated : Nat :=
  0x8000000000000000

def maxExponent : Nat :=
  0x7FFFFFFF

def takeDigits (n count : Nat) : List UInt8 → Nat × Nat × List UInt8
  | [] => (n, count, [])
  | b :: s =>
    match digit? b with
    | some d =>
      if 10 * n + d ≤ maxSignificand then takeDigits (10 * n + d) (count + 1) s
      else (n, count, b :: s)
    | none => (n, count, b :: s)

/-- Reads the digits of an exponent. There is no number if it grows too great; the rest then starts
behind the digit that is too much. -/
def takeExponent (n : Nat) : List UInt8 → Option Nat × List UInt8
  | [] => (some n, [])
  | b :: s =>
    match digit? b with
    | some d => if 10 * n + d ≤ maxExponent then takeExponent (10 * n + d) s else (none, s)
    | none => (some n, b :: s)

/-- A magnitude divided by `10 ^ n`. A single division goes no further than `10 ^ 308`, and each one
rounds. -/
def divideByPower (m : Magnitude) (n : Nat) : Option Magnitude :=
  if n ≤ 308 then
    (Magnitude.ofNat? (Nat.pow 10 n)).bind m.div?
  else if m.isZero then
    some m
  else
    ((Magnitude.ofNat? (Nat.pow 10 308)).bind m.div?).bind (divideByPower · (n - 308))
termination_by n

/-- The number `significand * 10 ^ exponent`, rounded at each step of its calculation. There is none
if it is too great. -/
def scaleDecimal (significand : Nat) (exponent : Int) : Option Magnitude := do
  let m ← Magnitude.ofNat? significand
  if exponent < 0 then divideByPower m exponent.natAbs
  else if exponent ≤ 308 then (Magnitude.ofNat? (Nat.pow 10 exponent.toNat)).bind m.mul?
  else if m.isZero then some m
  else none

def finishFloating (negative : Bool) (significand : Nat) (exponent : Int) (s : List UInt8) :
    Except Fault (Number × List UInt8) :=
  match scaleDecimal significand exponent with
  | some m => .ok (.floating ⟨negative, m⟩, s)
  | none => .error (.here .numberOutOfRange s)

/-- Reads an exponent after its mark. An exponent that is too long gives zero, unless the number
would be too great. -/
def readExponent (negative : Bool) (significand : Nat) (start : Int) (s : List UInt8) :
    Except Fault (Number × List UInt8) :=
  let isNegative := s.head? == some (ascii '-')
  let s := if s.head?.any isSign then s.drop 1 else s
  match s with
  | [] => .error (.here .endInValue [])
  | b :: rest =>
    if isDigit b then
      match takeExponent 0 (b :: rest) with
      | (some n, rest) =>
        finishFloating negative significand (if isNegative then start - n else start + n) rest
      | (none, rest) =>
        if significand ≠ 0 ∧ !isNegative then .error (.here .numberOutOfRange rest)
        else .ok (.floating ⟨negative, .zero⟩, rest.dropWhile isDigit)
    else .error (.here .invalidNumber rest)

def readScale (negative : Bool) (significand : Nat) (exponent : Int) (s : List UInt8) :
    Except Fault (Number × List UInt8) :=
  if s.head?.any isExponentMark then readExponent negative significand exponent (s.drop 1)
  else finishFloating negative significand exponent s

/-- Reads a fraction after its point. Digits that the significand has no room for are dropped. -/
def readFraction (negative : Bool) (significand : Nat) (exponent : Int) (s : List UInt8) :
    Except Fault (Number × List UInt8) :=
  if startsWithDigit s then
    let (n, count, rest) := takeDigits significand 0 s
    readScale negative n (exponent - count) (rest.dropWhile isDigit)
  else if s.isEmpty then .error (.next .endInValue s)
  else .error (.next .invalidNumber s)

def integerValue (negative : Bool) (n : Nat) : Number :=
  if !negative then .integer n
  else if 0 < n ∧ n ≤ maxNegated then .integer (-(n : Int))
  else .floating ⟨true, (Magnitude.ofNat? n).getD .zero⟩

def readNumber (negative : Bool) : List UInt8 → Except Fault (Number × List UInt8)
  | [] => .error (.here .endInValue [])
  | b :: s =>
    if !isDigit b then .error (.here .invalidNumber s)
    else if b = ascii '0' ∧ startsWithDigit s then .error (.next .invalidNumber s)
    else
      let (n, _, rest) := takeDigits 0 0 (b :: s)
      let more := rest.takeWhile isDigit
      let rest := rest.dropWhile isDigit
      if rest.head? == some (ascii '.') then
        readFraction negative n more.length (rest.drop 1)
      else if more.isEmpty && !rest.head?.any isExponentMark then
        .ok (integerValue negative n, rest)
      else
        readScale negative n more.length rest

def skipExponent (s : List UInt8) : Except Fault (List UInt8) :=
  match if s.head?.any isSign then s.drop 1 else s with
  | [] => .error (.here .invalidNumber [])
  | b :: s =>
    if isDigit b then .ok (s.dropWhile isDigit) else .error (.here .invalidNumber s)

def skipScale (s : List UInt8) : Except Fault (List UInt8) :=
  if s.head?.any isExponentMark then skipExponent (s.drop 1) else .ok s

def skipFraction (s : List UInt8) : Except Fault (List UInt8) :=
  if s.head? == some (ascii '.') then
    let fraction := s.drop 1
    if startsWithDigit fraction then skipScale (fraction.dropWhile isDigit)
    else .error (.next .invalidNumber fraction)
  else skipScale s

/-- Passes over a number after its sign. Whatever is wrong with it, it is called invalid. -/
def skipNumber : List UInt8 → Except Fault (List UInt8)
  | [] => .error (.here .invalidNumber [])
  | b :: s =>
    if !isDigit b then .error (.here .invalidNumber s)
    else if b = ascii '0' then
      if startsWithDigit s then .error (.next .invalidNumber s) else skipFraction s
    else skipFraction (s.dropWhile isDigit)

theorem length_dropWhile_le (p : UInt8 → Bool) (s : List UInt8) :
    (s.dropWhile p).length ≤ s.length :=
  (List.dropWhile_suffix p).length_le

theorem length_le_of_skipExponent {s rest : List UInt8} (h : skipExponent s = .ok rest) :
    rest.length ≤ s.length := by
  unfold skipExponent at h
  split at h
  · simp at h
  · rename_i b r hs
    split at h
    · have hd := length_dropWhile_le isDigit r
      have hr : (b :: r).length ≤ s.length := by
        rw [← hs]
        split <;> simp
      simp only [Except.ok.injEq] at h
      simp only [List.length_cons] at hr
      rw [← h]
      omega
    · simp at h

theorem length_le_of_skipScale {s rest : List UInt8} (h : skipScale s = .ok rest) :
    rest.length ≤ s.length := by
  unfold skipScale at h
  split at h
  · have hr := length_le_of_skipExponent h
    simp only [List.length_drop] at hr
    omega
  · simp_all

theorem length_le_of_skipFraction {s rest : List UInt8} (h : skipFraction s = .ok rest) :
    rest.length ≤ s.length := by
  unfold skipFraction at h
  split at h
  · simp only at h
    split at h
    · have hr := length_le_of_skipScale h
      have hd := length_dropWhile_le isDigit (s.drop 1)
      simp only [List.length_drop] at hd
      omega
    · simp at h
  · exact length_le_of_skipScale h

theorem length_lt_of_skipNumber {s rest : List UInt8} (h : skipNumber s = .ok rest) :
    rest.length < s.length := by
  cases s with
  | nil => simp [skipNumber] at h
  | cons b s =>
    rw [skipNumber] at h
    split at h
    · simp at h
    · split at h
      · split at h
        · simp at h
        · exact Nat.lt_succ_of_le (length_le_of_skipFraction h)
      · have hr := length_le_of_skipFraction h
        have hd := length_dropWhile_le isDigit s
        simp only [List.length_cons]
        omega

end Bulletin.Json
