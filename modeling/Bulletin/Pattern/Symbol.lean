import Bulletin.Pattern.Mode
import Bulletin.Text.Digits

namespace Bulletin.Pattern

inductive Symbol
  /-- A character, which may have been given as a byte. -/
  | character (c : Char) (asByte : Bool)
  /-- Digits, blanks or the characters of words, or all others. -/
  | kind (negated : Bool)
  | category
  | edge (ofWord : Bool)
  deriving DecidableEq, Repr

namespace Symbol

def isAscii (c : Char) : Bool :=
  c.toNat < 0x80

/-- Whether a symbol makes sense. A pattern of bytes must not match in the middle of a character,
and there is no way to tell the words of a text of characters apart. -/
def isAllowed (mode : Mode) : Symbol → Bool
  | character c asByte => mode.unicode || !asByte || isAscii c
  | kind negated => mode.unicode || !negated
  | category => mode.unicode
  | edge ofWord => !(ofWord && mode.unicode)

/-- Whether a symbol makes sense between square brackets, where bytes stand for themselves. -/
def isAllowedInBrackets (mode : Mode) : Symbol → Bool
  | character c _ => mode.unicode || isAscii c
  | edge _ => false
  | symbol => symbol.isAllowed mode

def categoryLetters : List Char :=
  "clmnpszCLMNPSZ".toList

def digitCount? : Char → Option Nat
  | 'x' => some 2
  | 'u' => some 4
  | 'U' => some 8
  | _ => none

def control? : Char → Option Char
  | 'a' => some '\x07'
  | 'f' => some '\x0C'
  | 'n' => some '\n'
  | 'r' => some '\r'
  | 't' => some '\t'
  | 'v' => some '\x0B'
  | _ => none

/-- What a single letter behind a backslash stands for. Any other ASCII character but a digit or an
angle bracket stands for itself. -/
def ofLetter? (c : Char) : Option Symbol :=
  if ['d', 's', 'w'].contains c then some (.kind false)
  else if ['D', 'S', 'W'].contains c then some (.kind true)
  else if ['A', 'z'].contains c then some (.edge false)
  else if ['b', 'B', '<', '>'].contains c then some (.edge true)
  else if isAscii c && !c.isAlphanum then some (.character c false)
  else (control? c).map (.character · false)

def readDigits (mode : Mode) : Nat → List Char → Option (List Char × List Char)
  | 0, s => some ([], s)
  | n + 1, s =>
    match mode.skip s with
    | [] => none
    | c :: s => do
      let (digits, rest) ← readDigits mode n s
      if Text.isDigitIn 16 c then some (c :: digits, rest) else none

def readEscape (mode : Mode) : List Char → Option (Symbol × List Char)
  | [] => none
  | c :: s =>
    match digitCount? c with
    | some count => do
      let (digits, rest) ← readDigits mode count s
      let c' ← (Text.number? 16 digits).bind Text.scalar?
      some (.character c' (c = 'x'), rest)
    | none =>
      if c = 'p' || c = 'P' then
        match mode.skip s with
        | letter :: rest => if categoryLetters.contains letter then some (.category, rest) else none
        | [] => none
      else (ofLetter? c).map (·, s)

end Symbol

end Bulletin.Pattern
