import Bulletin.Text.Scan

namespace Bulletin.Marker

open Text

def text : String :=
  "//ASYNC_END"

def chars : List Char :=
  text.toList

def rule : Rule Unit := fun c s ↦
  if chars.isPrefixOf (c :: s) then some ((), chars.length - 1) else none

/-- The text without its marks. What comes together when a mark goes is not read again. -/
def erase (s : List Char) : List Char :=
  (scan rule s).filterMap Piece.plain?

def occursIn (s : List Char) : Bool :=
  (scan rule s).any Piece.isFound

/-- The text in front of the first mark, which is all of it where there is none. -/
def before (s : List Char) : List Char :=
  ((scan rule s).takeWhile fun piece ↦ !piece.isFound).filterMap Piece.plain?

theorem rule_eq_some_iff {c : Char} {s : List Char} :
    rule c s = some ((), chars.length - 1) ↔ chars <+: c :: s := by
  simp [rule]

theorem rule_eq_none_iff {c : Char} {s : List Char} :
    rule c s = none ↔ ¬chars <+: c :: s := by
  simp [rule]

end Bulletin.Marker
