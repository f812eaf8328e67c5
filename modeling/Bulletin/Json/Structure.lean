import Bulletin.Json.Number

namespace Bulletin.Json

inductive Bracket
  | list
  | object
  deriving DecidableEq, Repr

namespace Bracket

def closer : Bracket → UInt8
  | list => ascii ']'
  | object => ascii '}'

def atEnd : Bracket → Cause
  | list => .endInList
  | object => .endInObject

def expectedCommaOrEnd : Bracket → Cause
  | list => .expectedListCommaOrEnd
  | object => .expectedObjectCommaOrEnd

def ofOpener? (b : UInt8) : Option Bracket :=
  if b = ascii '[' then some list
  else if b = ascii '{' then some object
  else none

end Bracket

inductive Next
  | item (s : List UInt8)
  | closed (rest : List UInt8)

/-- Finds the next item. Every item but the first stands behind a comma, and a comma has to be
followed by an item. -/
def readNext (bracket : Bracket) (isFirst : Bool) (s : List UInt8) : Except Fault Next :=
  match skipSpace s with
  | [] => .error (.next bracket.atEnd [])
  | b :: rest =>
    if b = bracket.closer then .ok (.closed rest)
    else if isFirst then .ok (.item (b :: rest))
    else if b = comma then
      match skipSpace rest with
      | [] => .error (.next .endInValue [])
      | c :: more =>
        if c = bracket.closer then .error (.next .trailingComma (c :: more))
        else .ok (.item (c :: more))
    else .error (.next bracket.expectedCommaOrEnd (b :: rest))

def readColon (s : List UInt8) : Except Fault (List UInt8) :=
  match skipSpace s with
  | [] => .error (.next .endInObject [])
  | b :: rest =>
    if b = ascii ':' then .ok rest else .error (.next .expectedColon (b :: rest))

def readKeyQuote (s : List UInt8) : Except Fault (List UInt8) :=
  match skipSpace s with
  | [] => .error (.next .endInObject [])
  | b :: rest => if b = quote then .ok rest else .error (.next .expectedKey (b :: rest))

def skipKey (s : List UInt8) : Except Fault (List UInt8) := do
  let s ← readKeyQuote s
  let s ← skipString s
  readColon s

def wordAfter? (b : UInt8) : Option (List UInt8 × Found) :=
  if b = ascii 'n' then some ("ull".toList.map ascii, .null)
  else if b = ascii 't' then some ("rue".toList.map ascii, .boolean true)
  else if b = ascii 'f' then some ("alse".toList.map ascii, .boolean false)
  else none

def skipScalar : List UInt8 → Except Fault (List UInt8)
  | [] => .error (.next .endInValue [])
  | b :: s =>
    match wordAfter? b with
    | some (word, _) => readWord word s
    | none =>
      if b = ascii '-' then skipNumber s
      else if isDigit b then skipNumber (b :: s)
      else if b = quote then skipString s
      else .error (.next .expectedValue (b :: s))

/-- A value of the wrong type is read as far as it takes to name it. What is wrong inside it comes
first; a list or an object is named without looking into it. -/
def wrongType (expected : String) : List UInt8 → Fault
  | [] => .next .endInValue []
  | b :: s =>
    let named (found : Except Fault (Found × List UInt8)) : Fault :=
      match found with
      | .ok (found, rest) => .here (.wrongType found expected) rest
      | .error fault => fault
    match wordAfter? b, Bracket.ofOpener? b with
    | some (word, found), _ => named ((readWord word s).map (found, ·))
    | none, some .list => named (.ok (.list, b :: s))
    | none, some .object => named (.ok (.object, b :: s))
    | none, none =>
      if b = ascii '-' then named ((readNumber true s).map fun (n, rest) ↦ (.number n, rest))
      else if isDigit b then
        named ((readNumber false (b :: s)).map fun (n, rest) ↦ (.number n, rest))
      else if b = quote then named ((readString s).map fun (text, rest) ↦ (.string text, rest))
      else .next .expectedValue (b :: s)

theorem length_lt_of_skipSpace {s rest : List UInt8} {b : UInt8} (h : skipSpace s = b :: rest) :
    rest.length < s.length := by
  have hs := length_skipSpace_le s
  rw [h] at hs
  exact hs

theorem length_le_of_readNext {bracket : Bracket} {isFirst : Bool} {s item : List UInt8}
    (h : readNext bracket isFirst s = .ok (.item item)) : item.length ≤ s.length := by
  unfold readNext at h
  split at h
  · simp at h
  · rename_i b rest hs
    have hr := length_lt_of_skipSpace hs
    split at h
    · simp at h
    · split at h
      · simp only [Except.ok.injEq, Next.item.injEq] at h
        rw [← h]
        exact hr
      · split at h
        · split at h
          · simp at h
          · rename_i c more hc
            have hm := length_lt_of_skipSpace hc
            split at h
            · simp at h
            · simp only [Except.ok.injEq, Next.item.injEq] at h
              rw [← h, List.length_cons]
              omega
        · simp at h

theorem length_lt_of_readColon {s rest : List UInt8} (h : readColon s = .ok rest) :
    rest.length < s.length := by
  unfold readColon at h
  split at h
  · simp at h
  · rename_i b r hs
    split at h
    · simp only [Except.ok.injEq] at h
      exact h ▸ length_lt_of_skipSpace hs
    · simp at h

theorem length_lt_of_readKeyQuote {s rest : List UInt8} (h : readKeyQuote s = .ok rest) :
    rest.length < s.length := by
  unfold readKeyQuote at h
  split at h
  · simp at h
  · rename_i b r hs
    split at h
    · simp only [Except.ok.injEq] at h
      exact h ▸ length_lt_of_skipSpace hs
    · simp at h

theorem length_lt_of_skipKey {s rest : List UInt8} (h : skipKey s = .ok rest) :
    rest.length < s.length := by
  obtain ⟨afterQuote, hq, h⟩ := exists_of_bind_eq_ok h
  obtain ⟨afterKey, hk, h⟩ := exists_of_bind_eq_ok h
  have h₁ := length_lt_of_readKeyQuote hq
  have h₂ := length_lt_of_skipStringFrom hk
  have h₃ := length_lt_of_readColon h
  omega

theorem length_le_of_readWord {word s rest : List UInt8} (h : readWord word s = .ok rest) :
    rest.length ≤ s.length := by
  induction word generalizing s with
  | nil => simp_all [readWord]
  | cons w word ih =>
    cases s with
    | nil => simp [readWord] at h
    | cons b s =>
      rw [readWord] at h
      split at h
      · exact Nat.le_succ_of_le (ih h)
      · simp at h

theorem length_lt_of_skipScalar {s rest : List UInt8} (h : skipScalar s = .ok rest) :
    rest.length < s.length := by
  cases s with
  | nil => simp [skipScalar] at h
  | cons b s =>
    rw [skipScalar] at h
    split at h
    · exact Nat.lt_succ_of_le (length_le_of_readWord h)
    · split at h
      · exact Nat.lt_succ_of_lt (length_lt_of_skipNumber h)
      · split at h
        · exact length_lt_of_skipNumber h
        · split at h
          · exact Nat.lt_succ_of_lt (length_lt_of_skipStringFrom h)
          · simp at h

end Bulletin.Json
