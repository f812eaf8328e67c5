import Bulletin.Text.Blank

namespace Bulletin.Pattern

structure Mode where
  /-- Blanks and comments between the parts do not count. -/
  spaced : Bool
  /-- The pattern speaks of characters, and not of bytes. -/
  unicode : Bool
  deriving DecidableEq, Repr

/-- Whether a text turns switches on and off: each has a letter, those behind a hyphen are turned
off, and nothing is said twice. -/
def areSwitches (s : List Char) : Bool :=
  s.all "-imsUuRx".toList.contains && decide s.Nodup && s.getLast? ≠ some '-'

def switched (s : List Char) (letter : Char) (before : Bool) : Bool :=
  if s.contains letter then (s.takeWhile (· ≠ '-')).contains letter else before

namespace Mode

def initial : Mode :=
  ⟨false, true⟩

def switch (mode : Mode) (s : List Char) : Mode :=
  ⟨switched s 'x' mode.spaced, switched s 'u' mode.unicode⟩

/-- Passes over blanks, and over comments, which begin with a number sign and end with the line. -/
def skipBlanks : Bool → List Char → List Char
  | _, [] => []
  | true, c :: s => skipBlanks (c ≠ '\n') s
  | false, c :: s =>
    if Text.isBlank c then skipBlanks false s
    else if c = '#' then skipBlanks true s
    else c :: s

def skip (mode : Mode) (s : List Char) : List Char :=
  if mode.spaced then skipBlanks false s else s

/-- The next character that counts, where the text of a comment does. -/
def next? (mode : Mode) (s : List Char) : Option Char :=
  if mode.spaced then
    match s.dropWhile Text.isBlank with
    | '#' :: s => (s.dropWhile Text.isBlank).head?
    | s => s.head?
  else s.head?

end Mode

end Bulletin.Pattern
