import Bulletin.Decimal.Numeral
import Bulletin.Journal
import Bulletin.Pattern
import Bulletin.Text.Alphanumeric
import Bulletin.Text.Blank
import Bulletin.Text.Digits
import Bulletin.Text.Slice

namespace Bulletin

/-- The gravest levels up to a given one, or none at all. -/
abbrev Verbosity := Option Level

namespace Verbosity

def ofNumber? (n : Nat) : Option Verbosity :=
  if n = 0 then some none else (Level.all[n - 1]?).map some

def number? (s : List Char) : Option Nat :=
  let digits := if s.head? = some '+' then s.drop 1 else s
  if digits.isEmpty then none else Text.number? 10 digits

def ofChars? (s : List Char) : Option Verbosity :=
  match (number? s).bind ofNumber? with
  | some verbosity => some verbosity
  | none =>
    let name := String.ofList s
    if name.toLower = "off" then some none else (Level.ofName? name).map some

def allows (verbosity : Verbosity) (level : Level) : Bool :=
  verbosity.any (level.rank ≤ ·.rank)

end Verbosity

inductive FilterError
  | senseless
  | insideCharacter
  deriving DecidableEq, Repr

/-- Cuts the part of a directive that stands behind so many bytes of it. Blanks at the beginning of
a directive are not among these bytes, and yet the bytes are counted from its very beginning when
the part is cut out. -/
def cutPart (directive : List Char) (start : Nat) (part : List Char) :
    Except FilterError (List Char) :=
  match Text.slice? directive start (Text.size part) with
  | some s => .ok s
  | none => .error .insideCharacter

/-- A part of all notices: those of a span of work, those that have a certain field, or both. -/
structure Scope where
  span : Option String
  field : Option String
  deriving DecidableEq, Repr

namespace Scope

def all : Scope :=
  ⟨none, none⟩

/-- Whether a text can be a field. One that is given with its value, behind an equals sign, goes by
both. A value is a number or a pattern, and what follows another equals sign is no part of it. -/
def isField (s : List Char) : Bool :=
  !s.isEmpty && (s.splitOn '=')[1]?.all fun v ↦ Decimal.isNumeral v || Pattern.isWellFormed v

def read (directive : List Char) (start : Nat) (s : List Char) :
    Except FilterError (Scope × List Char) := do
  let name := s.takeWhile fun c ↦ c ≠ ']' && c ≠ '{'
  match s.drop name.length with
  | ']' :: rest =>
    let span ← cutPart directive start name
    return (⟨some (String.ofList span), none⟩, rest)
  | '{' :: rest =>
    let span ← cutPart directive start name
    let content := rest.takeWhile (· ≠ '}')
    let rest := rest.drop content.length
    if rest.isEmpty then throw .senseless
    let field ← cutPart directive (start + Text.size name + 1) content
    match rest with
    | '}' :: ']' :: rest =>
      if isField field then
        let span? := if span.isEmpty then none else some (String.ofList span)
        return (⟨span?, some (String.ofList field)⟩, rest)
      else throw .senseless
    | _ => throw .senseless
  | _ => throw .senseless

/-- Whether a notice is in a scope. No notice belongs to a span, and no field goes by a value. -/
def holds (scope : Scope) (n : Notice) : Bool :=
  scope.span.isNone && scope.field.all n.fieldNames.contains

end Scope

structure Directive where
  target : String
  scope : Scope
  verbosity : Verbosity
  deriving DecidableEq, Repr

namespace Directive

def mayBegin (c : Char) : Bool :=
  ['[', '-', ':', '_'].contains c || Text.isAlphanumeric c

/-- Reads the verbosity at the end of a directive, of which so much is left behind the target and
the scope. Everything is shown if none is given. -/
def readVerbosity (directive : List Char) (start : Nat) (s : List Char) :
    Except FilterError Verbosity :=
  if s.head? = some '=' then
    match Text.dropBytes? (start + 1) directive with
    | none => .error .insideCharacter
    | some [] => .ok (some .trace)
    | some verbosity => (Verbosity.ofChars? verbosity).elim (.error .senseless) .ok
  else if s.all Text.isBlank then .ok (some .trace)
  else .error .senseless

def read (directive : List Char) : Except FilterError Directive := do
  let body := directive.dropWhile Text.isBlank
  let name := body.takeWhile fun c ↦ c ≠ '=' && c ≠ '['
  let rest := body.drop name.length
  if !body.head?.any mayBegin then throw .senseless
  else if rest.isEmpty then
    match Verbosity.ofChars? directive with
    | some verbosity => return ⟨"", .all, verbosity⟩
    | none => return ⟨String.ofList directive, .all, some .trace⟩
  else
    let target ← cutPart directive 0 name
    let start := Text.size name + 1
    let (scope, rest) ←
      if rest.head? = some '[' then Scope.read directive start (rest.drop 1) else pure (.all, rest)
    let verbosity ← readVerbosity directive (Text.size body - Text.size rest) rest
    return ⟨String.ofList target, scope, verbosity⟩

def covers (d : Directive) (n : Notice) : Bool :=
  d.target.toList.isPrefixOf n.target.toList && d.scope.holds n

/-- Whether a directive yields to another one that covers the same notice: the longer target wins,
then the one with a field, then the later name of a field. -/
def yieldsTo (d e : Directive) : Bool :=
  d.target.length < e.target.length ||
    (d.target.length = e.target.length && d.scope.field.getD "" < e.scope.field.getD "")

end Directive

structure Filter where
  directives : List Directive
  deriving DecidableEq, Repr

namespace Filter

def standard : Filter :=
  ⟨[⟨"release_notes", .all, some .info⟩]⟩

def read (setting : String) : Except FilterError Filter := do
  let parts := (setting.toList.splitOn ',').filter (!·.isEmpty)
  return ⟨← parts.mapM Directive.read⟩

/-- The filter that a setting asks for, or the standard one if the setting is absent or makes no
sense. There is none for a setting that cannot be cut into parts. -/
def ofSetting : Option String → Option Filter
  | none => some standard
  | some setting =>
    match read setting with
    | .ok filter => some filter
    | .error .senseless => some standard
    | .error .insideCharacter => none

def deciding? (f : Filter) (n : Notice) : Option Directive :=
  f.directives.foldl (fun best? d ↦
    if d.covers n && best?.all (!d.yieldsTo ·) then some d else best?) none

def shows (f : Filter) (n : Notice) : Bool :=
  (f.deciding? n).any (·.verbosity.allows n.level)

end Filter

end Bulletin
