namespace Bulletin.Decimal

def isDigits (s : List Char) : Bool :=
  !s.isEmpty && s.all Char.isDigit

def withoutSign (s : List Char) : List Char :=
  if s.head? = some '+' || s.head? = some '-' then s.drop 1 else s

def isFixed (s : List Char) : Bool :=
  let whole := s.takeWhile (· ≠ '.')
  let fraction := s.drop (whole.length + 1)
  isDigits (whole ++ fraction)

/-- Whether a text is a number: an integer, a number with a point or an exponent, or a name for what
is infinite or no number at all. -/
def isNumeral (s : List Char) : Bool :=
  let s := withoutSign s
  let mantissa := s.takeWhile fun c ↦ c ≠ 'e' && c ≠ 'E'
  let exponent := s.drop mantissa.length
  ["inf", "infinity", "nan"].contains (String.ofList s).toLower ||
    (isFixed mantissa && (exponent.isEmpty || isDigits (withoutSign (exponent.drop 1))))

end Bulletin.Decimal
