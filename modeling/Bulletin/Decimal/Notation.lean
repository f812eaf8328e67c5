import Bulletin.Decimal.Shortest

namespace Bulletin.Decimal

/-- How numbers are written: positionally while the exponent of the leading digit lies within
bounds, otherwise with an exponent. -/
structure Style where
  minPositional : Int
  maxPositional : Int

def digitText (digits : List Nat) : String :=
  String.ofList (digits.map Nat.digitChar)

def zeros (n : Nat) : String :=
  String.ofList (List.replicate n '0')

def positional (d : Digits) : String :=
  if d.point ≤ 0 then
    "0." ++ (if d.digits.isEmpty then "0" else zeros (-d.point).toNat ++ digitText d.digits)
  else
    let whole := d.point.toNat
    let fraction := d.digits.drop whole
    digitText (d.digits.take whole) ++ zeros (whole - d.digits.length) ++ "." ++
      (if fraction.isEmpty then "0" else digitText fraction)

/-- One digit before the point, which stands only before further digits, and a signed exponent. -/
def scientific (d : Digits) : String :=
  let fraction := d.digits.drop 1
  let exponent := d.point - 1
  digitText (d.digits.take 1) ++ (if fraction.isEmpty then "" else "." ++ digitText fraction) ++
    "e" ++ (if exponent < 0 then "-" else "+") ++ toString exponent.natAbs

def Style.render (style : Style) (x : Binary64) : String :=
  let d := shortest x.magnitude
  let isPositional :=
    d.digits.isEmpty || (style.minPositional ≤ d.point - 1 && d.point - 1 ≤ style.maxPositional)
  (if x.negative then "-" else "") ++ (if isPositional then positional d else scientific d)

end Bulletin.Decimal
