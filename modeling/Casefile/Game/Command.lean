import Casefile.Naming
import Casefile.Text.Blank

namespace Casefile

/-!
The player's command: `T`, the number of a turn, a colon, and a message on the same line.

Blanks after the colon may hold line breaks; the message may not.  A message of blanks alone is
taken when its last character is no line break, and is then empty.
-/

structure Command where
  turn : Turn
  message : String
  deriving DecidableEq

namespace Command

/-- Whether the text after the colon can be split into blanks and a message on one line. -/
def hasMessage (tail : List Char) : Bool :=
  match tail.dropWhile Text.isBlank with
  | [] => match tail.getLast? with
    | some c => c ≠ '\n'
    | none => false
  | c :: rest => !(c :: rest).contains '\n'

/-- The command for a turn whose number may be out of range. -/
def ofParts (number : Nat) (tail : List Char) : Option Command :=
  if number < UInt32.size ∧ hasMessage tail then
    some ⟨⟨UInt32.ofNat number⟩, String.ofList (Text.trimChars tail)⟩
  else none

def ofDigits (cs : List Char) : Option Command :=
  match cs.takeWhile Char.isDigit, cs.dropWhile Char.isDigit with
  | digit :: digits, ':' :: tail => ofParts (Text.ofDecimal (digit :: digits)) tail
  | _, _ => none

def parse (line : String) : Option Command :=
  match line.toList with
  | 'T' :: rest => ofDigits rest
  | 't' :: rest => ofDigits rest
  | _ => none

end Command

end Casefile
