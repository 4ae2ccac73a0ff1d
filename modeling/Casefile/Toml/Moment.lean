namespace Casefile.Toml

/-!
Dates and times of a settings file.

A date is followed by a `T` or one blank and a time, or by nothing; after both there may be the
distance from universal time.  Seconds may be left out.
-/

def pair? (greatest : Nat) (tens ones : Char) : Option Nat :=
  let value := (tens.toNat - '0'.toNat) * 10 + (ones.toNat - '0'.toNat)
  if tens.isDigit && ones.isDigit && value ≤ greatest then some value else none

def isLeap (year : Nat) : Bool := year % 4 = 0 && (year % 100 ≠ 0 || year % 400 = 0)

def daysIn (year month : Nat) : Nat :=
  if month = 2 then (if isLeap year then 29 else 28)
  else if month = 4 || month = 6 || month = 9 || month = 11 then 30
  else 31

def isDay (year month day : Nat) : Bool :=
  1 ≤ month && month ≤ 12 && 1 ≤ day && day ≤ daysIn year month

def afterDate? : List Char → Option (List Char)
  | a :: b :: c :: d :: '-' :: e :: f :: '-' :: g :: h :: rest => do
    let century ← pair? 99 a b
    let year ← pair? 99 c d
    let month ← pair? 12 e f
    let day ← pair? 31 g h
    if isDay (century * 100 + year) month day then some rest else none
  | _ => none

def afterFraction? : List Char → Option (List Char)
  | '.' :: rest =>
    if (rest.takeWhile Char.isDigit).isEmpty then none else some (rest.dropWhile Char.isDigit)
  | cs => some cs

def afterSeconds? : List Char → Option (List Char)
  | ':' :: a :: b :: rest => do
    let _ ← pair? 60 a b
    afterFraction? rest
  | cs => some cs

def afterTime? : List Char → Option (List Char)
  | a :: b :: ':' :: c :: d :: rest => do
    let _ ← pair? 23 a b
    let _ ← pair? 59 c d
    afterSeconds? rest
  | _ => none

/-- Whether characters are the distance from universal time, or nothing. -/
def isOffset : List Char → Bool
  | [] => true
  | ['Z'] | ['z'] => true
  | [sign, a, b, ':', c, d] =>
    (sign = '+' || sign = '-') && (pair? 23 a b).isSome && (pair? 59 c d).isSome
  | _ => false

def isDateEnd (c : Char) : Bool := c = 'T' || c = 't' || c = ' '

def isMoment (cs : List Char) : Bool :=
  match afterDate? cs with
  | some [] => true
  | some (c :: rest) => isDateEnd c && (afterTime? rest).any isOffset
  | none => afterTime? cs = some []

end Casefile.Toml
