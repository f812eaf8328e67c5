namespace Bulletin

/-- The size `mantissa * 2 ^ exponent` of a finite number of the format binary64. -/
structure Magnitude where
  mantissa : Nat
  exponent : Int
  deriving DecidableEq, Repr

def roundHalfEven (num den : Nat) : Nat :=
  let q := num / den
  let r := num % den
  if 2 * r < den then q
  else if den < 2 * r then q + 1
  else q + q % 2

namespace Magnitude

def minExponent : Int :=
  -1074

def maxExponent : Int :=
  971

def zero : Magnitude :=
  ⟨0, minExponent⟩

def isZero (m : Magnitude) : Bool :=
  m.mantissa == 0

def scaled (n : Nat) (e : Int) : Nat × Nat :=
  (n * Nat.pow 2 e.toNat, Nat.pow 2 (-e).toNat)

def ratio (m : Magnitude) : Nat × Nat :=
  scaled m.mantissa m.exponent

def floorLog2 (num den : Nat) : Int :=
  let k : Int := num.log2 - den.log2
  let (scaledDen, unit) := scaled den k
  if num * unit < scaledDen then k - 1 else k

/-- The magnitude nearest to a fraction, the one with the even mantissa where two are equally
near. There is none for a fraction that rounds beyond the greatest. -/
def ofRatio? (num den : Nat) : Option Magnitude :=
  if num = 0 then some zero
  else
    let e := max (floorLog2 num den - 52) minExponent
    let (scaledDen, unit) := scaled den e
    let m := roundHalfEven (num * unit) scaledDen
    let rounded : Magnitude := if m = Nat.pow 2 53 then ⟨Nat.pow 2 52, e + 1⟩ else ⟨m, e⟩
    if maxExponent < rounded.exponent then none else some rounded

def ofNat? (n : Nat) : Option Magnitude :=
  ofRatio? n 1

def mul? (a b : Magnitude) : Option Magnitude :=
  let (an, ad) := a.ratio
  let (bn, bd) := b.ratio
  ofRatio? (an * bn) (ad * bd)

def div? (a b : Magnitude) : Option Magnitude :=
  let (an, ad) := a.ratio
  let (bn, bd) := b.ratio
  ofRatio? (an * bd) (ad * bn)

end Magnitude

structure Binary64 where
  negative : Bool
  magnitude : Magnitude
  deriving DecidableEq, Repr

end Bulletin
