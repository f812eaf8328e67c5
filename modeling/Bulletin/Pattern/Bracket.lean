import Bulletin.Pattern.Symbol

namespace Bulletin.Pattern

/-- How deep parts are nested that stand next to each other, by how deep each of them is. Two parts
or more are one level above each of them. -/
def depthOfRow : List Nat → Nat
  | [] => 0
  | [depth] => depth
  | depths => 1 + depths.foldl max 0

def kindNames : List String :=
  ["alnum", "alpha", "ascii", "blank", "cntrl", "digit", "graph", "lower", "print", "punct",
    "space", "upper", "word", "xdigit"]

structure Bracket where
  /-- Nothing but hyphens has been read, which stand for themselves at the beginning. -/
  isFresh : Bool
  /-- The depths of the items since the last operation. -/
  items : List Nat
  /-- The depth of what stands before the last operation. -/
  before : Option Nat

namespace Bracket

def empty : Bracket :=
  ⟨true, [], none⟩

def add (b : Bracket) (depth : Nat) : Bracket :=
  { b with isFresh := false, items := depth :: b.items }

def innerDepth (b : Bracket) : Nat :=
  match b.before with
  | none => depthOfRow b.items
  | some depth => 1 + max depth (depthOfRow b.items)

def addOperation (b : Bracket) : Bracket :=
  ⟨false, [], some b.innerDepth⟩

def readKind (s : List Char) : Option (Bool × List Char) :=
  match s with
  | ':' :: s =>
    let negated := s.head? = some '^'
    let s := if negated then s.drop 1 else s
    let name := s.takeWhile (· ≠ ':')
    match s.drop name.length with
    | ':' :: ']' :: rest =>
      if kindNames.contains (String.ofList name) then some (negated, rest) else none
    | _ => none
  | _ => none

def readSymbol (mode : Mode) : List Char → Option (Symbol × List Char)
  | [] => none
  | c :: s => if c = '\\' then Symbol.readEscape mode s else some (.character c false, s)

def readItem (mode : Mode) (s : List Char) : Option (List Char) := do
  let (first, rest) ← readSymbol mode s
  if !first.isAllowedInBrackets mode then none
  else
    match mode.skip rest with
    | [] => none
    | c :: behind =>
      if c ≠ '-' || mode.next? behind = some ']' || mode.next? behind = some '-' then
        some (c :: behind)
      else
        let (last, rest) ← readSymbol mode (mode.skip behind)
        match first, last with
        | .character low _, .character high _ =>
          if last.isAllowedInBrackets mode && low ≤ high then some rest else none
        | _, _ => none

/-- Goes past an opening bracket and the sign that negates a set. A set of bytes cannot be
negated. -/
def enter (mode : Mode) (s : List Char) : Option (List Char) :=
  match mode.skip s with
  | '^' :: rest => if mode.unicode then some rest else none
  | rest => some rest

/-- What comes of a step inside brackets: they are still open, with those around them, or the
outermost are closed, and the depth of the set is known. -/
inductive Turn
  | within (b : Bracket) (outer : List Bracket) (rest : List Char)
  | closed (depth : Nat) (rest : List Char)

/-- Reads what begins with a character: an item, a bracket, or the sign of an operation, which is
doubled. At the beginning a closing bracket stands for itself. -/
def step (mode : Mode) (b : Bracket) (outer : List Bracket) (c : Char) (s : List Char) :
    Option Turn :=
  if b.isFresh && c = '-' then some (.within { b with items := 0 :: b.items } outer s)
  else if b.isFresh && b.items.isEmpty && c = ']' then some (.within (b.add 0) outer s)
  else if c = '[' then
    match readKind s with
    | some (negated, rest) =>
      if negated && !mode.unicode then none else some (.within (b.add 0) outer rest)
    | none => (enter mode s).map (.within empty (b :: outer) ·)
  else if c = ']' then
    match outer with
    | [] => some (.closed (1 + b.innerDepth) s)
    | b' :: outer => some (.within (b'.add (1 + b.innerDepth)) outer s)
  else if ['&', '-', '~'].contains c && s.head? = some c then
    some (.within b.addOperation outer (s.drop 1))
  else (readItem mode (c :: s)).map (.within (b.add 0) outer ·)

def readFrom (mode : Mode) (b : Bracket) (outer : List Bracket) (s : List Char) :
    Option (Nat × List Char) :=
  match mode.skip s with
  | [] => none
  | c :: behind =>
    match step mode b outer c behind with
    | none => none
    | some (.closed depth rest) => some (depth, rest)
    | some (.within b outer rest) =>
      if rest.length < s.length then readFrom mode b outer rest else none
termination_by s.length

def read (mode : Mode) (s : List Char) : Option (Nat × List Char) := do
  readFrom mode empty [] (← enter mode s)

end Bracket

end Bulletin.Pattern
