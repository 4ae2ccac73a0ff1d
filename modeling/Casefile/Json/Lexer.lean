import Casefile.Json.Value
import Casefile.Text.Hexadecimal

namespace Casefile.Json

/-!
JSON text as a sequence of tokens.

`lex` cuts a text into tokens and fails on the first character that starts none.  Blanks separate
tokens and are dropped.  Every scanner takes at least one character, so the cut ends.
-/

def isGap (c : Char) : Bool := c = ' ' || c = '\t' || c = '\n' || c = '\r'

/-- A character of a string literal: written as itself or by a short escape, or by its code. -/
inductive Piece where
  | plain (c : Char)
  | coded (unit : Nat)

def hexUnit (a b c d : Char) : Option Nat := do
  return (← Text.hexValue a) * 4096 + (← Text.hexValue b) * 256 + (← Text.hexValue c) * 16 +
    (← Text.hexValue d)

def shortEscape : Char → Option Char
  | '"' => some '"'
  | '\\' => some '\\'
  | '/' => some '/'
  | 'b' => some '\x08'
  | 'f' => some '\x0c'
  | 'n' => some '\n'
  | 'r' => some '\r'
  | 't' => some '\t'
  | _ => none

/-- The rest of a string literal up to its closing quote, and the text after it. -/
def scanPieces : List Char → Option (List Piece × List Char)
  | [] => none
  | '"' :: rest => some ([], rest)
  | '\\' :: 'u' :: a :: b :: c :: d :: rest =>
    match hexUnit a b c d, scanPieces rest with
    | some unit, some (pieces, after) => some (.coded unit :: pieces, after)
    | _, _ => none
  | '\\' :: letter :: rest =>
    match shortEscape letter, scanPieces rest with
    | some c, some (pieces, after) => some (.plain c :: pieces, after)
    | _, _ => none
  | c :: rest =>
    if c.toNat < 0x20 then none
    else match scanPieces rest with
      | some (pieces, after) => some (.plain c :: pieces, after)
      | none => none

def isHighHalf (unit : Nat) : Bool := decide (0xD800 ≤ unit ∧ unit < 0xDC00)

def isLowHalf (unit : Nat) : Bool := decide (0xDC00 ≤ unit ∧ unit < 0xE000)

def pairCode (high low : Nat) : Nat := 0x10000 + (high - 0xD800) * 0x400 + (low - 0xDC00)

/-- The characters of a literal; two coded halves next to each other make one character. -/
def joinPieces : List Piece → Option (List Char)
  | [] => some []
  | .plain c :: rest => (joinPieces rest).map (c :: ·)
  | [.coded unit] =>
    if isHighHalf unit || isLowHalf unit then none else some [Char.ofNat unit]
  | .coded unit :: .plain c :: rest =>
    if isHighHalf unit || isLowHalf unit then none
    else (joinPieces rest).map (Char.ofNat unit :: c :: ·)
  | .coded unit :: .coded next :: rest =>
    if isHighHalf unit then
      if isLowHalf next then (joinPieces rest).map (Char.ofNat (pairCode unit next) :: ·) else none
    else if isLowHalf unit then none
    else (joinPieces (.coded next :: rest)).map (Char.ofNat unit :: ·)

def literal (pieces : List Piece) : Literal := (joinPieces pieces).map String.ofList

/-- The whole part of a number: a zero, or digits that do not start with one. -/
def scanWhole : List Char → Option (List Char × List Char)
  | '0' :: rest => some (['0'], rest)
  | cs =>
    if (cs.takeWhile Char.isDigit).isEmpty then none
    else some (cs.takeWhile Char.isDigit, cs.dropWhile Char.isDigit)

def scanFraction : List Char → Option (List Char × List Char)
  | '.' :: rest =>
    if (rest.takeWhile Char.isDigit).isEmpty then none
    else some ('.' :: rest.takeWhile Char.isDigit, rest.dropWhile Char.isDigit)
  | cs => some ([], cs)

def scanExponentSign : List Char → List Char × List Char
  | '+' :: rest => (['+'], rest)
  | '-' :: rest => (['-'], rest)
  | cs => ([], cs)

def scanExponent : List Char → Option (List Char × List Char)
  | c :: rest =>
    if c = 'e' ∨ c = 'E' then
      match scanExponentSign rest with
      | (sign, digits) =>
        if (digits.takeWhile Char.isDigit).isEmpty then none
        else some (c :: sign ++ digits.takeWhile Char.isDigit, digits.dropWhile Char.isDigit)
    else some ([], c :: rest)
  | [] => some ([], [])

/-- The token of a number: a whole number unless it is spelled in another way. -/
def numberToken (negative : Bool) (whole fraction exponent : List Char) : Token :=
  let magnitude := Nat.ofDigitChars 10 whole 0
  if fraction.isEmpty && exponent.isEmpty && !(negative && magnitude == 0) then
    .int (if negative then -(magnitude : Int) else magnitude)
  else .real ((if negative then ['-'] else []) ++ whole ++ fraction ++ exponent)

def scanUnsigned (negative : Bool) (cs : List Char) : Option (Token × List Char) :=
  match scanWhole cs with
  | none => none
  | some (whole, rest) =>
    match scanFraction rest with
    | none => none
    | some (fraction, rest) =>
      match scanExponent rest with
      | none => none
      | some (exponent, rest) => some (numberToken negative whole fraction exponent, rest)

/-- The token at the start of a text that starts with no blank, and the text after it. -/
def nextToken : List Char → Option (Token × List Char)
  | '[' :: rest => some (.openArray, rest)
  | ']' :: rest => some (.closeArray, rest)
  | '{' :: rest => some (.openObject, rest)
  | '}' :: rest => some (.closeObject, rest)
  | ',' :: rest => some (.comma, rest)
  | ':' :: rest => some (.colon, rest)
  | 'n' :: 'u' :: 'l' :: 'l' :: rest => some (.null, rest)
  | 't' :: 'r' :: 'u' :: 'e' :: rest => some (.bool true, rest)
  | 'f' :: 'a' :: 'l' :: 's' :: 'e' :: rest => some (.bool false, rest)
  | '"' :: rest => (scanPieces rest).map fun (pieces, after) => (.text (literal pieces), after)
  | '-' :: rest => scanUnsigned true rest
  | cs => scanUnsigned false cs

theorem scanPieces_length {cs after : List Char} {pieces : List Piece}
    (scanned : scanPieces cs = some (pieces, after)) : after.length < cs.length := by
  fun_induction scanPieces cs generalizing pieces with
  | case1 => cases scanned
  | case2 => cases scanned; simp
  | case3 _ _ _ _ _ _ _ _ found _ ih =>
    cases scanned
    exact Nat.lt_trans (ih found) (by simp only [List.length_cons]; omega)
  | case4 => cases scanned
  | case5 _ _ _ _ _ _ found _ ih =>
    cases scanned
    exact Nat.lt_trans (ih found) (by simp only [List.length_cons]; omega)
  | case6 => cases scanned
  | case7 => cases scanned
  | case8 _ _ _ _ _ _ _ _ found ih =>
    cases scanned
    exact Nat.lt_succ_of_lt (ih found)
  | case9 => cases scanned

theorem length_dropWhile_le (p : Char → Bool) (cs : List Char) :
    (cs.dropWhile p).length ≤ cs.length := (List.dropWhile_suffix p).length_le

theorem scanWhole_length {cs whole rest : List Char} (scanned : scanWhole cs = some (whole, rest)) :
    rest.length < cs.length := by
  unfold scanWhole at scanned
  split at scanned
  · cases scanned; simp
  · split at scanned
    · cases scanned
    next nonempty =>
      cases scanned
      have parts := congrArg List.length (List.takeWhile_append_dropWhile (p := Char.isDigit) (l := cs))
      have positive : 0 < (cs.takeWhile Char.isDigit).length := by
        cases digits : cs.takeWhile Char.isDigit with
        | nil => simp [digits] at nonempty
        | cons => simp
      simp only [List.length_append] at parts
      omega

theorem scanFraction_length {cs fraction rest : List Char}
    (scanned : scanFraction cs = some (fraction, rest)) : rest.length ≤ cs.length := by
  unfold scanFraction at scanned
  split at scanned
  · split at scanned
    · cases scanned
    · cases scanned
      exact Nat.le_succ_of_le (length_dropWhile_le ..)
  · cases scanned; exact Nat.le_refl _

theorem scanExponentSign_length (cs : List Char) : (scanExponentSign cs).2.length ≤ cs.length := by
  unfold scanExponentSign
  split <;> simp

theorem scanExponent_length {cs exponent rest : List Char}
    (scanned : scanExponent cs = some (exponent, rest)) : rest.length ≤ cs.length := by
  unfold scanExponent at scanned
  split at scanned
  next c tail =>
    split at scanned
    · have shorter := scanExponentSign_length tail
      split at scanned
      next signed =>
        split at scanned
        · cases scanned
        · cases scanned
          rw [signed] at shorter
          exact Nat.le_succ_of_le (Nat.le_trans (length_dropWhile_le ..) shorter)
    · cases scanned; exact Nat.le_refl _
  · cases scanned; exact Nat.le_refl _

theorem scanUnsigned_length {negative : Bool} {cs rest : List Char} {token : Token}
    (scanned : scanUnsigned negative cs = some (token, rest)) : rest.length < cs.length := by
  unfold scanUnsigned at scanned
  split at scanned
  · cases scanned
  next whole =>
    split at scanned
    · cases scanned
    next fraction =>
      split at scanned
      · cases scanned
      next exponent =>
        cases scanned
        exact Nat.lt_of_le_of_lt (scanExponent_length exponent)
          (Nat.lt_of_le_of_lt (scanFraction_length fraction) (scanWhole_length whole))

theorem nextToken_length {cs rest : List Char} {token : Token}
    (scanned : nextToken cs = some (token, rest)) : rest.length < cs.length := by
  unfold nextToken at scanned
  split at scanned
  all_goals try (cases scanned; simp only [List.length_cons]; omega)
  · obtain ⟨⟨pieces, after⟩, found, same⟩ := Option.map_eq_some_iff.mp scanned
    cases same
    exact Nat.lt_succ_of_lt (scanPieces_length found)
  · exact Nat.lt_succ_of_lt (scanUnsigned_length scanned)
  · exact scanUnsigned_length scanned

/-- The tokens of a text, or nothing if some part of it is no token. -/
def lex (cs : List Char) : Option (List Token) :=
  match cs with
  | [] => some []
  | c :: rest =>
    if isGap c then lex rest
    else match _found : nextToken (c :: rest) with
      | none => none
      | some (token, after) => (lex after).map (token :: ·)
termination_by cs.length
decreasing_by
  · simp
  · exact nextToken_length _found

end Casefile.Json
