import Casefile.Toml.Moment
import Casefile.Toml.Quoted

namespace Casefile.Toml

/-!
The text of a settings file as a sequence of tokens.

A word is a run of characters that mean nothing to the structure of a line: a key, several keys
with dots, a number, a date.  A date and a time may have one blank between them.  Comments are
dropped, and blanks are kept as one token, because brackets of a header may not be apart.
-/

inductive Token where
  | newline
  | gap
  | equals
  | comma
  | openBracket
  | closeBracket
  | openBrace
  | closeBrace
  | word (cs : List Char)
  | quoted (long : Bool) (text : String)
  deriving DecidableEq

def isGap (c : Char) : Bool := c = ' ' || c = '\t'

def isWordChar (c : Char) : Bool :=
  !isGap c && c ∉ ['\r', '\n', '=', ',', '[', ']', '\x7b', '\x7d', '#', '"', '\'']

/-- The part of a word after a date, if a time may come there. -/
def timePart (rest : List Char) : List Char :=
  match rest with
  | ' ' :: c :: more => if c.isDigit then ' ' :: (c :: more).takeWhile isWordChar else []
  | _ => []

def scanWord (cs : List Char) : List Char × List Char :=
  let word := cs.takeWhile isWordChar
  let rest := cs.dropWhile isWordChar
  let time := if afterDate? word = some [] then timePart rest else []
  (word ++ time, rest.drop time.length)

def afterComment? (cs : List Char) : Option (List Char) :=
  let isInside (c : Char) : Bool := c ≠ '\n' && c ≠ '\r'
  if (cs.takeWhile isInside).any isControl then none else some (cs.dropWhile isInside)

def quotedToken (quotes : Quotes) (cs : List Char) : Option (Option Token × List Char) :=
  (scanText quotes cs).map fun (text, after) =>
    (some (.quoted quotes.long (String.ofList text)), after)

/-- The token at the start of a text, if it has one there, and the text after it. -/
def nextToken : List Char → Option (Option Token × List Char)
  | '\n' :: rest => some (some .newline, rest)
  | '\r' :: '\n' :: rest => some (some .newline, rest)
  | '=' :: rest => some (some .equals, rest)
  | ',' :: rest => some (some .comma, rest)
  | '[' :: rest => some (some .openBracket, rest)
  | ']' :: rest => some (some .closeBracket, rest)
  | '{' :: rest => some (some .openBrace, rest)
  | '}' :: rest => some (some .closeBrace, rest)
  | '#' :: rest => (afterComment? rest).map fun after => (none, after)
  | '"' :: '"' :: '"' :: rest => quotedToken ⟨'"', true⟩ rest
  | '\'' :: '\'' :: '\'' :: rest => quotedToken ⟨'\'', true⟩ rest
  | '"' :: rest => quotedToken ⟨'"', false⟩ rest
  | '\'' :: rest => quotedToken ⟨'\'', false⟩ rest
  | c :: rest =>
    if isGap c then some (some .gap, rest.dropWhile isGap)
    else if isWordChar c then
      let (word, after) := scanWord (c :: rest)
      some (some (.word word), after)
    else none
  | [] => none

theorem quotedToken_length {quotes : Quotes} {cs after : List Char} {token : Option Token}
    (scanned : quotedToken quotes cs = some (token, after)) : after.length < cs.length := by
  obtain ⟨⟨text, rest⟩, found, same⟩ := Option.map_eq_some_iff.mp scanned
  cases same
  exact scanText_length found

theorem scanWord_length {c : Char} {rest : List Char} (inWord : isWordChar c = true) :
    (scanWord (c :: rest)).2.length < (c :: rest).length := by
  have shorter := (List.dropWhile_suffix isWordChar (l := rest)).length_le
  simp only [scanWord, List.length_drop, List.dropWhile_cons, inWord, if_true, List.length_cons]
  omega

theorem nextToken_length {cs after : List Char} {token : Option Token}
    (scanned : nextToken cs = some (token, after)) : after.length < cs.length := by
  unfold nextToken at scanned
  split at scanned
  case h_9 rest =>
    obtain ⟨left, found, same⟩ := Option.map_eq_some_iff.mp scanned
    cases same
    unfold afterComment? at found
    dsimp only at found
    split at found
    · cases found
    · cases found
      exact Nat.lt_succ_of_le (List.dropWhile_suffix _).length_le
  case h_10 => exact Nat.lt_of_lt_of_le (quotedToken_length scanned) (by simp only [List.length_cons]; omega)
  case h_11 => exact Nat.lt_of_lt_of_le (quotedToken_length scanned) (by simp only [List.length_cons]; omega)
  case h_12 => exact Nat.lt_succ_of_lt (quotedToken_length scanned)
  case h_13 => exact Nat.lt_succ_of_lt (quotedToken_length scanned)
  case h_14 c rest _ _ _ _ _ _ _ _ _ _ _ _ _ =>
    split at scanned
    · cases scanned
      exact Nat.lt_succ_of_le (List.dropWhile_suffix _).length_le
    · split at scanned
      next inWord => cases scanned; exact scanWord_length inWord
      · cases scanned
  case h_15 => cases scanned
  all_goals
    cases scanned
    simp only [List.length_cons]
    omega

/-- The tokens of a text, or nothing if some part of it is no token. -/
def lex (cs : List Char) : Option (List Token) :=
  match cs with
  | [] => some []
  | c :: rest =>
    match _found : nextToken (c :: rest) with
    | none => none
    | some (none, after) => lex after
    | some (some token, after) => (lex after).map (token :: ·)
termination_by cs.length
decreasing_by
  · exact nextToken_length _found
  · exact nextToken_length _found

end Casefile.Toml
