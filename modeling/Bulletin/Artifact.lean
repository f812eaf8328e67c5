import Bulletin.Json.Skip
import Bulletin.Json.Writer
import Bulletin.Release

namespace Bulletin.Artifact

open Json

def encode (r : Release) : List UInt8 :=
  Utf8.encode (writeObject (Section.all.map fun kind ↦ (kind.key, r.get kind)))

abbrev Texts := PerSection (Option String)

def noTexts : Texts :=
  ⟨none, none, none⟩

def releaseType : String :=
  "struct ReleaseRecord"

def textType : String :=
  "a string"

def readText (s : List UInt8) : Except Fault (String × List UInt8) :=
  match skipSpace s with
  | [] => .error (.next .endInValue [])
  | b :: rest =>
    if b = quote then readString rest else .error (wrongType textType (b :: rest))

/-- The place at which a second text for a section is reported: behind the end of the object, if
that is next. -/
def duplicateAt (s : List UInt8) : List UInt8 :=
  let s := skipSpace s
  if s.head? == some Bracket.object.closer then s.drop 1 else s

/-- Reads the key and the value of a member. Values with unknown keys do not matter. -/
def readMember (texts : Texts) (s : List UInt8) : Except Fault (Texts × List UInt8) := do
  let s ← readKeyQuote s
  let (key, s) ← readString s
  match Section.ofKey? key with
  | none =>
    let s ← readColon s
    let s ← skipValue s
    .ok (texts, s)
  | some kind =>
    if (texts.get kind).isSome then
      .error (.here (.duplicateField key) (duplicateAt s))
    else do
      let s ← readColon s
      let (text, s) ← readText s
      .ok (texts.set kind (some text), s)

theorem length_lt_of_readText {s rest : List UInt8} {text : String}
    (h : readText s = .ok (text, rest)) : rest.length < s.length := by
  unfold readText at h
  split at h
  · simp at h
  · rename_i b more hs
    have hlt := length_lt_of_skipSpace hs
    split at h
    · exact Nat.lt_trans (length_lt_of_readString h) hlt
    · simp at h

theorem length_lt_of_readMember {texts texts' : Texts} {s rest : List UInt8}
    (h : readMember texts s = .ok (texts', rest)) : rest.length < s.length := by
  obtain ⟨afterQuote, hq, h⟩ := exists_of_bind_eq_ok h
  obtain ⟨⟨key, afterKey⟩, hk, h⟩ := exists_of_bind_eq_ok h
  have h₁ := length_lt_of_readKeyQuote hq
  have h₂ := length_lt_of_readString hk
  dsimp only at h
  split at h
  · obtain ⟨afterColon, hc, h⟩ := exists_of_bind_eq_ok h
    obtain ⟨afterValue, hv, h⟩ := exists_of_bind_eq_ok h
    have h₃ := length_lt_of_readColon hc
    have h₄ := length_lt_of_skipValue hv
    cases h
    omega
  · split at h
    · cases h
    · obtain ⟨afterColon, hc, h⟩ := exists_of_bind_eq_ok h
      obtain ⟨⟨text, afterText⟩, ht, h⟩ := exists_of_bind_eq_ok h
      have h₃ := length_lt_of_readColon hc
      have h₄ := length_lt_of_readText ht
      cases h
      exact Nat.lt_trans h₄ (by omega)

def readMembers (texts : Texts) (isFirst : Bool) (s : List UInt8) :
    Except Fault (Texts × List UInt8) :=
  match _hn : readNext .object isFirst s with
  | .error fault => .error fault
  | .ok (.closed rest) => .ok (texts, rest)
  | .ok (.item member) =>
    match _hm : readMember texts member with
    | .error fault => .error fault
    | .ok (texts, rest) => readMembers texts false rest
termination_by s.length
decreasing_by
  exact Nat.lt_of_lt_of_le (length_lt_of_readMember ‹_›) (length_le_of_readNext ‹_›)

/-- Reads the items of a list, which are the texts of the sections in order. The list may end
early, but not late. -/
def readItems (texts : Texts) (isFirst : Bool) : List Section → List UInt8 →
    Except Fault (Texts × List UInt8)
  | kind :: kinds, s => do
    match ← readNext .list isFirst s with
    | .closed rest => .ok (texts, rest)
    | .item s =>
      let (text, s) ← readText s
      readItems (texts.set kind (some text)) false kinds s
  | [], s =>
    match skipSpace s with
    | [] => .error (.next .endInList [])
    | b :: rest =>
      if b = Bracket.list.closer then .ok (texts, rest)
      else if b = comma then
        let s := skipSpace rest
        if s.head? == some Bracket.list.closer then .error (.next .trailingComma s)
        else .error (.next .trailingCharacters s)
      else .error (.next .trailingCharacters (b :: rest))

/-- Reads a release, as an object or as a list. A section without a text is empty. -/
def readRelease (s : List UInt8) : Except Fault (Release × List UInt8) := do
  let (texts, rest) ←
    match skipSpace s with
    | [] => .error (.next .endInValue [])
    | b :: rest =>
      match Bracket.ofOpener? b with
      | some .object => readMembers noTexts true rest
      | some .list => readItems noTexts true Section.all rest
      | none => .error (wrongType releaseType (b :: rest))
  .ok (texts.map (·.getD ""), rest)

def readAll (s : List UInt8) : Except Fault Release := do
  let (r, rest) ← readRelease s
  match skipSpace rest with
  | [] => .ok r
  | more => .error (.next .trailingCharacters more)

def decode (bytes : List UInt8) : Except Json.Error Release :=
  (readAll bytes).mapError (·.locate bytes)

end Bulletin.Artifact
