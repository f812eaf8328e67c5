import Bulletin.Decimal.Notation
import Bulletin.Text.Quoted

namespace Bulletin.Json

/-- A number in JSON text: whole numbers of 64 bits are kept as they are, all others are rounded. -/
inductive Number
  | integer (n : Int)
  | floating (x : Binary64)
  deriving DecidableEq, Repr

inductive Found
  | null
  | boolean (b : Bool)
  | number (n : Number)
  | string (s : String)
  | list
  | object
  deriving DecidableEq, Repr

inductive Cause
  | endInValue
  | endInList
  | endInObject
  | endInString
  | expectedColon
  | expectedListCommaOrEnd
  | expectedObjectCommaOrEnd
  | expectedWord
  | expectedValue
  | expectedKey
  | trailingComma
  | trailingCharacters
  | invalidEscape
  | invalidNumber
  | invalidUnicode
  | numberOutOfRange
  | controlCharacter
  | loneSurrogate
  | missingSurrogate
  | wrongType (found : Found) (expected : String)
  | duplicateField (key : String)
  deriving DecidableEq, Repr

/-- Numbers are positional from `0.00001` up to sixteen digits before the point. -/
def numberStyle : Decimal.Style :=
  ⟨-5, 15⟩

def Found.describe : Found → String
  | null => "null"
  | boolean b => "boolean `" ++ toString b ++ "`"
  | number (.integer n) => "integer `" ++ toString n ++ "`"
  | number (.floating x) => "floating point `" ++ numberStyle.render x ++ "`"
  | string s => "string " ++ Text.quoted s
  | list => "sequence"
  | object => "map"

def Cause.message : Cause → String
  | endInValue => "EOF while parsing a value"
  | endInList => "EOF while parsing a list"
  | endInObject => "EOF while parsing an object"
  | endInString => "EOF while parsing a string"
  | expectedColon => "expected `:`"
  | expectedListCommaOrEnd => "expected `,` or `]`"
  | expectedObjectCommaOrEnd => "expected `,` or `\x7d`"
  | expectedWord => "expected ident"
  | expectedValue => "expected value"
  | expectedKey => "key must be a string"
  | trailingComma => "trailing comma"
  | trailingCharacters => "trailing characters"
  | invalidEscape => "invalid escape"
  | invalidNumber => "invalid number"
  | invalidUnicode => "invalid unicode code point"
  | numberOutOfRange => "number out of range"
  | controlCharacter => "control character (\\u0000-\\u001F) found while parsing a string"
  | loneSurrogate => "lone leading surrogate in hex escape"
  | missingSurrogate => "unexpected end of hex escape"
  | wrongType found expected => "invalid type: " ++ found.describe ++ ", expected " ++ expected
  | duplicateField key => "duplicate field `" ++ key ++ "`"

/-- A cause and its place, given by the number of bytes that are left there. The column is moved
back by `back` bytes, as far as the line goes. -/
structure Fault where
  cause : Cause
  left : Nat
  back : Nat
  deriving DecidableEq, Repr

def Fault.here (cause : Cause) (rest : List UInt8) : Fault :=
  ⟨cause, rest.length, 0⟩

def Fault.next (cause : Cause) (rest : List UInt8) : Fault :=
  ⟨cause, rest.length - 1, 0⟩

section

variable {ε α β : Type} {x : Except ε α}

theorem exists_of_bind_eq_ok {f : α → Except ε β} {b : β} (h : x >>= f = .ok b) :
    ∃ a, x = .ok a ∧ f a = .ok b := by
  cases x with
  | error e => cases h
  | ok a => exact ⟨a, rfl, h⟩

theorem exists_of_map_eq_ok {f : α → β} {b : β} (h : x.map f = .ok b) :
    ∃ a, x = .ok a ∧ f a = b := by
  cases x with
  | error e => cases h
  | ok a => exact ⟨a, rfl, Except.ok.inj h⟩

end

/-- A place in a text. Lines are counted from one, and so are the bytes of a line. -/
structure Position where
  line : Nat
  column : Nat
  deriving DecidableEq, Repr

def newline : UInt8 :=
  0x0A

def Position.after (read : List UInt8) : Position where
  line := 1 + read.count newline
  column := (read.reverse.takeWhile (· != newline)).length

structure Error where
  cause : Cause
  position : Position
  deriving DecidableEq, Repr

def Error.message (e : Error) : String :=
  e.cause.message ++ " at line " ++ toString e.position.line ++
    " column " ++ toString e.position.column

def Fault.locate (bytes : List UInt8) (fault : Fault) : Error :=
  let last := Position.after (bytes.take (bytes.length - fault.left))
  ⟨fault.cause, { last with column := last.column - fault.back }⟩

end Bulletin.Json
