import Bulletin.Decimal.Binary64

namespace Bulletin.Decimal

/-- The number `0.d₁d₂… * 10 ^ point` with the given digits. -/
structure Digits where
  digits : List Nat
  point : Int
  deriving DecidableEq, Repr

def digitsOf (n : Nat) : List Nat :=
  (Nat.toDigits 10 n).map fun c ↦ c.toNat - '0'.toNat

def floorLog10 (num den : Nat) : Int :=
  if den ≤ num then
    (digitsOf (num / den)).length - 1
  else
    let k := (digitsOf (den / num)).length
    if num * Nat.pow 10 (k - 1) = den then -((k : Int) - 1) else -(k : Int)

/-- The fractions that round to a magnitude, as the two ends of an interval over one denominator;
the ends belong to it if and only if the mantissa is even. Below a power of two the neighbours are
half as far away as above it. -/
structure Interval where
  low : Nat
  value : Nat
  high : Nat
  den : Nat
  closed : Bool

def interval (m : Magnitude) : Interval :=
  let below := if m.mantissa = Nat.pow 2 52 ∧ Magnitude.minExponent < m.exponent then 1 else 2
  let scale := Nat.pow 2 (m.exponent - 2).toNat
  { low := (4 * m.mantissa - below) * scale
    value := 4 * m.mantissa * scale
    high := (4 * m.mantissa + 2) * scale
    den := Nat.pow 2 (2 - m.exponent).toNat
    closed := m.mantissa % 2 = 0 }

def Interval.holds (i : Interval) (num den : Nat) : Bool :=
  if i.closed then i.low * den ≤ num * i.den && num * i.den ≤ i.high * den
  else i.low * den < num * i.den && num * i.den < i.high * den

/-- The multiple of `10 ^ e` that reads back, the nearer one if both neighbours of the value do,
and the even one if they are equally near. -/
def onGrid? (i : Interval) (e : Int) : Option Nat :=
  let up := Nat.pow 10 e.toNat
  let down := Nat.pow 10 (-e).toNat
  let a := i.value * down / (i.den * up)
  let rest := i.value * down % (i.den * up)
  match i.holds (a * up) down, i.holds ((a + 1) * up) down with
  | false, false => none
  | true, false => some a
  | false, true => some (a + 1)
  | true, true =>
    if 2 * rest < i.den * up then some a
    else if i.den * up < 2 * rest then some (a + 1)
    else some (a + a % 2)

def withoutTrailingZeros (digits : List Nat) : List Nat :=
  (digits.reverse.dropWhile (· = 0)).reverse

/-- The fewest digits that read back as a magnitude, and of those the nearest. Seventeen digits are
always enough. -/
def shortest (m : Magnitude) : Digits :=
  if m.isZero then ⟨[], 0⟩
  else
    let i := interval m
    let top := floorLog10 i.value i.den
    let found := (List.range 17).findSome? fun (k : Nat) ↦
      let e := top - k
      (onGrid? i e).map fun n ↦ (digitsOf n, e)
    match found with
    | some (digits, e) => ⟨withoutTrailingZeros digits, digits.length + e⟩
    | none => ⟨[], 0⟩

end Bulletin.Decimal
