import Casefile.Text.Blank
import Casefile.Text.Hexadecimal

namespace Casefile.Toml

/-!
Numbers of a settings file.

Whole numbers are decimal with an optional sign, or hexadecimal, octal or binary without one.
Underscores may stand between digits.  A decimal number has no leading zero.
-/

/-- Digits among which underscores stand one by one, without the underscores. -/
def digits? (isDigit : Char → Bool) (cs : List Char) : Option (List Char) :=
  let groups := Text.pieces (· = '_') cs
  if groups.all fun group => !group.isEmpty && group.all isDigit then some groups.flatten else none

def decimalDigits? (cs : List Char) : Option (List Char) :=
  match digits? Char.isDigit cs with
  | some ('0' :: _ :: _) => none
  | digits => digits

def splitSign : List Char → Bool × List Char
  | '-' :: rest => (true, rest)
  | '+' :: rest => (false, rest)
  | cs => (false, cs)

def isDigitIn (base : Nat) (c : Char) : Bool := (Text.hexValue c).any (· < base)

def ofDigits (base : Nat) (digits : List Char) : Nat :=
  digits.foldl (fun value c => value * base + (Text.hexValue c).getD 0) 0

def base? : Char → Option Nat
  | 'x' => some 16
  | 'o' => some 8
  | 'b' => some 2
  | _ => none

def based? : List Char → Option Int
  | '0' :: letter :: rest => do
    let base ← base? letter
    let digits ← digits? (isDigitIn base) rest
    return ofDigits base digits
  | _ => none

def decimal? (cs : List Char) : Option Int :=
  let (negative, rest) := splitSign cs
  (decimalDigits? rest).map fun digits =>
    if negative then -(ofDigits 10 digits : Int) else ofDigits 10 digits

def whole? (cs : List Char) : Option Int := (based? cs).or (decimal? cs)

/-- A decimal number with a fraction or an exponent, without its sign. -/
structure Real where
  digits : List Char
  /-- How far the point has to move to the right from behind the last digit. -/
  shift : Int

/-- The least number that is nearer to a power of two beyond the range than to any number in it. -/
def realBound : Nat := 1 <<< 1024 - 1 <<< 970

def Real.inRange (real : Real) : Bool :=
  let digits := real.digits.dropWhile (· = '0')
  let places := (digits.length : Int) + real.shift
  if digits.isEmpty || places < 308 then true
  else if 310 < places then false
  else if 0 ≤ real.shift then
    ofDigits 10 digits * Nat.pow 10 real.shift.toNat < realBound
  else ofDigits 10 digits < realBound * Nat.pow 10 (-real.shift).toNat

def fraction? : List Char → Option (List Char)
  | [] => some []
  | '.' :: rest => digits? Char.isDigit rest
  | _ => none

def exponent? : List Char → Option Int
  | [] => some 0
  | _ :: rest =>
    let (negative, rest) := splitSign rest
    (digits? Char.isDigit rest).map fun digits =>
      if negative then -(ofDigits 10 digits : Int) else ofDigits 10 digits

def isExponent (c : Char) : Bool := c = 'e' || c = 'E'

def real? (cs : List Char) : Option Real := do
  let (_, rest) := splitSign cs
  let mantissa := rest.takeWhile (!isExponent ·)
  let whole ← decimalDigits? (mantissa.takeWhile (· ≠ '.'))
  let fraction ← fraction? (mantissa.dropWhile (· ≠ '.'))
  let exponent ← exponent? (rest.dropWhile (!isExponent ·))
  return { digits := whole ++ fraction, shift := exponent - fraction.length }

end Casefile.Toml
