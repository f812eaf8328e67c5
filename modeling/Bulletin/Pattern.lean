import Bulletin.Pattern.Bracket
import Bulletin.Text.Alphanumeric

namespace Bulletin.Pattern

/-- A part of a pattern: one that a repetition may follow, nested so deep, or switches. -/
inductive Part
  | matching (depth : Nat)
  | switches
  deriving DecidableEq, Repr

namespace Part

def depth : Part → Nat
  | matching depth => depth
  | switches => 0

end Part

structure Group where
  mode : Mode
  alternatives : List Nat
  /-- The parts of the last alternative, the latest first. -/
  parts : List Part

namespace Group

def empty (mode : Mode) : Group :=
  ⟨mode, [], []⟩

def add (g : Group) (depth : Nat) : Group :=
  { g with parts := .matching depth :: g.parts }

def addSwitches (g : Group) (s : List Char) : Group :=
  { g with mode := g.mode.switch s, parts := .switches :: g.parts }

def lastDepth (g : Group) : Nat :=
  depthOfRow (g.parts.map Part.depth)

def addAlternative (g : Group) : Group :=
  { g with alternatives := g.lastDepth :: g.alternatives, parts := [] }

def depth (g : Group) : Nat :=
  depthOfRow (g.lastDepth :: g.alternatives)

def repeated? (g : Group) : Option Group :=
  match g.parts with
  | .matching depth :: parts => some { g with parts := .matching (1 + depth) :: parts }
  | _ => none

end Group

/-- What follows an opening parenthesis: switches alone, or the beginning of a group, which may turn
switches or have a name. -/
inductive Opening
  | switches (s : List Char)
  | group (s : List Char) (name : Option (List Char))

def isName : List Char → Bool
  | [] => false
  | c :: s =>
    (c = '_' || Text.isAlphabetic c) &&
      s.all fun c ↦ ['_', '.', '[', ']'].contains c || Text.isAlphanumeric c

def readName (s : List Char) : Option (Opening × List Char) :=
  let name := s.takeWhile (· ≠ '>')
  match s.drop name.length with
  | _ :: rest => if isName name then some (.group [] (some name), rest) else none
  | [] => none

def readSwitches (s : List Char) : Option (Opening × List Char) :=
  let switches := s.takeWhile fun c ↦ c ≠ ':' && c ≠ ')'
  match s.drop switches.length with
  | [] => none
  | c :: rest =>
    if !areSwitches switches then none
    else if c = ':' then some (.group switches none, rest)
    else if switches.isEmpty then none
    else some (.switches switches, rest)

/-- Reads what follows an opening parenthesis. A group cannot look ahead or back. -/
def readOpening : List Char → Option (Opening × List Char)
  | '?' :: '=' :: _ | '?' :: '!' :: _ | '?' :: '<' :: '=' :: _ | '?' :: '<' :: '!' :: _ => none
  | '?' :: 'P' :: '<' :: s | '?' :: '<' :: s => readName s
  | '?' :: s => readSwitches s
  | s => some (.group [] none, s)

/-- What has been read of a pattern: the innermost group that is open, those around it, and the
names of all groups so far. -/
structure Reading where
  group : Group
  outer : List Group
  names : List (List Char)

namespace Reading

def start : Reading :=
  ⟨.empty .initial, [], []⟩

def open? (r : Reading) : Opening → Option Reading
  | .switches s => some { r with group := r.group.addSwitches s }
  | .group s name =>
    let inner := .empty (r.group.mode.switch s)
    if name.any r.names.contains then none
    else some ⟨inner, r.group :: r.outer, name.toList ++ r.names⟩

def close? (r : Reading) : Option Reading :=
  match r.outer with
  | [] => none
  | g :: outer => some { r with group := g.add (1 + r.group.depth), outer }

def step (r : Reading) (c : Char) (s : List Char) : Option (Reading × List Char) :=
  let mode := r.group.mode
  match c with
  | '(' => do
    let (opening, rest) ← readOpening (mode.skip s)
    some (← r.open? opening, rest)
  | ')' => r.close?.map (·, s)
  | '|' => some ({ r with group := r.group.addAlternative }, s)
  | '[' => do
    let (depth, rest) ← Bracket.read mode s
    some ({ r with group := r.group.add depth }, rest)
  | '?' | '*' | '+' => do
    let group ← r.group.repeated?
    some ({ r with group }, if s.head? = some '?' then s.drop 1 else s)
  | '{' => none
  | '\\' => do
    let (symbol, rest) ← Symbol.readEscape mode s
    if symbol.isAllowed mode then some ({ r with group := r.group.add 0 }, rest) else none
  | '.' => if mode.unicode then some ({ r with group := r.group.add 0 }, s) else none
  | _ => some ({ r with group := r.group.add 0 }, s)

def readFrom (r : Reading) (s : List Char) : Option Reading :=
  match r.group.mode.skip s with
  | [] => some r
  | c :: behind =>
    match r.step c behind with
    | none => none
    | some (r, rest) => if rest.length < s.length then readFrom r rest else none
termination_by s.length

end Reading

def maxDepth : Nat :=
  250

/-- Whether a text is a pattern that a text can be compared with. It holds no counts, for which
there is no closing brace. -/
def isWellFormed (s : List Char) : Bool :=
  match Reading.start.readFrom s with
  | some ⟨group, [], _⟩ => group.depth ≤ maxDepth
  | _ => false

end Bulletin.Pattern
