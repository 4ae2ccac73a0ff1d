import Casefile.Text.Hexadecimal

namespace Casefile.Toml

/-!
Texts in quotes.

A text stands on one line between single quotes, or goes over lines between three of them.  Between
double quotes a backslash starts an escape; between apostrophes every character stands for itself.
-/

structure Quotes where
  mark : Char
  long : Bool
  deriving DecidableEq

def Quotes.escapes (quotes : Quotes) : Bool := quotes.mark = '"'

/-- What came right before a character of a text. -/
inductive Reach where
  | plain
  | escape
  /-- Some digits of a character's code, of which more are to come. -/
  | code (left value : Nat)
  /-- A backslash and blanks, among them the end of a line or not. -/
  | fold (broken : Bool)
  deriving DecidableEq

inductive Effect where
  | emit (c : Char) (next : Reach)
  /-- It stands for nothing of its own. -/
  | skip (next : Reach)
  /-- It ends the text.  Some more marks belong to the text, and the end takes more characters. -/
  | close (marks more : Nat)
  | fail

def isControl (c : Char) : Bool := (c.toNat < 0x20 && c ≠ '\t') || c.toNat = 0x7F

def codeLength? : Char → Option Nat
  | 'x' => some 2
  | 'u' => some 4
  | 'U' => some 8
  | _ => none

def shortEscape? : Char → Option Char
  | '"' => some '"'
  | '\\' => some '\\'
  | 'b' => some '\x08'
  | 'e' => some '\x1b'
  | 'f' => some '\x0c'
  | 'n' => some '\n'
  | 'r' => some '\r'
  | 't' => some '\t'
  | _ => none

/-- The effect of a mark that may end a text.  A long text ends with three marks, and up to two more
before them belong to it. -/
def markEffect (quotes : Quotes) (rest : List Char) : Effect :=
  if !quotes.long then .close 0 0
  else
    let more := (rest.takeWhile (· = quotes.mark)).length
    if more < 2 then .emit quotes.mark .plain else .close (min 2 (more - 2)) (min 4 more)

def plainEffect (quotes : Quotes) (c : Char) (rest : List Char) : Effect :=
  if c = quotes.mark then markEffect quotes rest
  else if c = '\\' && quotes.escapes then .skip .escape
  else if c = '\n' then if quotes.long then .emit c .plain else .fail
  else if c = '\r' then
    if quotes.long && rest.head? = some '\n' then .emit c .plain else .fail
  else if isControl c then .fail
  else .emit c .plain

def foldEffect? (broken : Bool) (c : Char) (rest : List Char) : Option Effect :=
  if c = ' ' || c = '\t' then some (.skip (.fold broken))
  else if c = '\n' then some (.skip (.fold true))
  else if c = '\r' then some (if rest.head? = some '\n' then .skip (.fold broken) else .fail)
  else none

def escapeEffect (quotes : Quotes) (c : Char) (rest : List Char) : Effect :=
  match codeLength? c, shortEscape? c with
  | some left, _ => .skip (.code left 0)
  | none, some meant => .emit meant .plain
  | none, none =>
    if quotes.long then (foldEffect? false c rest).getD .fail else .fail

def codeEffect (left value : Nat) (c : Char) : Effect :=
  match Text.hexValue c with
  | none => .fail
  | some digit =>
    let value := value * 16 + digit
    if 1 < left then .skip (.code (left - 1) value)
    else if value.isValidChar then .emit (Char.ofNat value) .plain
    else .fail

def effect (quotes : Quotes) (before : Reach) (c : Char) (rest : List Char) : Effect :=
  match before with
  | .plain => plainEffect quotes c rest
  | .escape => escapeEffect quotes c rest
  | .code left value => codeEffect left value c
  | .fold broken =>
    match foldEffect? broken c rest with
    | some effect => effect
    | none => if broken then plainEffect quotes c rest else .fail

def scanQuoted (quotes : Quotes) (before : Reach) : List Char → Option (List Char × List Char)
  | [] => none
  | c :: rest =>
    match effect quotes before c rest with
    | .emit meant next =>
      match scanQuoted quotes next rest with
      | some (cs, after) => some (meant :: cs, after)
      | none => none
    | .skip next => scanQuoted quotes next rest
    | .close marks more => some (List.replicate marks quotes.mark, rest.drop more)
    | .fail => none

/-- A text whose opening marks have been read; the end of a line right after the marks of a long
text does not belong to it. -/
def scanText (quotes : Quotes) (cs : List Char) : Option (List Char × List Char) :=
  match quotes.long, cs with
  | true, '\n' :: rest => scanQuoted quotes .plain rest
  | true, '\r' :: '\n' :: rest => scanQuoted quotes .plain rest
  | _, cs => scanQuoted quotes .plain cs

theorem scanQuoted_length {quotes : Quotes} {before : Reach} {cs text after : List Char}
    (scanned : scanQuoted quotes before cs = some (text, after)) : after.length < cs.length := by
  induction cs generalizing before text with
  | nil => cases scanned
  | cons c rest ih =>
    unfold scanQuoted at scanned
    split at scanned
    · split at scanned
      next found => cases scanned; exact Nat.lt_succ_of_lt (ih found)
      next => cases scanned
    · exact Nat.lt_succ_of_lt (ih scanned)
    · cases scanned
      exact Nat.lt_succ_of_le (by simp)
    · cases scanned

theorem scanText_length {quotes : Quotes} {cs text after : List Char}
    (scanned : scanText quotes cs = some (text, after)) : after.length < cs.length := by
  unfold scanText at scanned
  split at scanned
  · exact Nat.lt_succ_of_lt (scanQuoted_length scanned)
  · exact Nat.lt_succ_of_lt (Nat.lt_succ_of_lt (scanQuoted_length scanned))
  · exact scanQuoted_length scanned

end Casefile.Toml
