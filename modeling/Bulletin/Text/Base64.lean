namespace Bulletin.Base64

def alphabet : List Char :=
  "ABCDEFGHIJKLMNOPQRSTUVWXYZabcdefghijklmnopqrstuvwxyz0123456789+/".toList

def pad : Char :=
  '='

def letter (n : Nat) : Char :=
  alphabet.getD (n % 64) pad

def letterValue? (c : Char) : Option Nat :=
  alphabet.findIdx? (· = c)

/-- Three bytes are written as four letters. A last group of one or two bytes is filled with zero
bits up to a letter and padded to four characters. -/
def encode : List UInt8 → List Char
  | [] => []
  | [a] =>
    let n := a.toNat * 16
    [letter (n / 64), letter n, pad, pad]
  | [a, b] =>
    let n := (a.toNat * 256 + b.toNat) * 4
    [letter (n / 4096), letter (n / 64), letter n, pad]
  | a :: b :: c :: rest =>
    let n := (a.toNat * 256 + b.toNat) * 256 + c.toNat
    letter (n / 262144) :: letter (n / 4096) :: letter (n / 64) :: letter n :: encode rest

def byte (n : Nat) : UInt8 :=
  UInt8.ofNat n

/-- Reads a last group that is padded; the bits that fill its last letter have to be zero. -/
def decodePadded? (w x y : Char) : Option (List UInt8) :=
  if y = pad then do
    let n := (← letterValue? w) * 64 + (← letterValue? x)
    guard (n % 16 = 0)
    some [byte (n / 16)]
  else do
    let n := ((← letterValue? w) * 64 + (← letterValue? x)) * 64 + (← letterValue? y)
    guard (n % 4 = 0)
    some [byte (n / 1024), byte (n / 4)]

def decode? : List Char → Option (List UInt8)
  | [] => some []
  | w :: x :: y :: z :: rest =>
    if z = pad ∧ rest = [] then
      decodePadded? w x y
    else do
      let n := (((← letterValue? w) * 64 + (← letterValue? x)) * 64 + (← letterValue? y)) * 64 +
        (← letterValue? z)
      return byte (n / 65536) :: byte (n / 256) :: byte n :: (← decode? rest)
  | _ => none

end Bulletin.Base64
