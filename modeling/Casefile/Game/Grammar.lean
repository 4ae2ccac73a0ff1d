import Casefile.Game.Command
import Casefile.Text.Pattern

namespace Casefile.Command

/-!
The grammar of commands.

It is said twice: as a pattern that a line is split by, and as what a line is made of when it spells
a command.  A line can be made in several ways, when there are blanks after the colon, but it spells
one command at most.
-/

/-- A mark, the digits of a turn, a colon, blanks, and text on one line. -/
def pattern : List Text.Part := [
  .once fun c => c == 'T' || c == 't',
  .many Char.isDigit,
  .once (· == ':'),
  .any Text.isBlank,
  .many (· != '\n')]

/-- The command in the pieces of a line, if the number of the turn is in range. -/
def ofPieces : List (List Char) → Option Command
  | [_, digits, _, _, body] =>
    if Text.ofDecimal digits < UInt32.size then
      some ⟨⟨UInt32.ofNat (Text.ofDecimal digits)⟩, String.ofList (Text.trimChars body)⟩
    else none
  | _ => none

/-- The line is made of a mark, digits, a colon, blanks and a body, in this order. -/
structure MadeOf (line : List Char) (mark : Char) (digits blanks body : List Char) : Prop where
  joined : line = mark :: (digits ++ ':' :: (blanks ++ body))
  marked : mark = 'T' ∨ mark = 't'
  numbered : digits ≠ []
  decimal : ∀ d ∈ digits, d.isDigit = true
  blank : ∀ c ∈ blanks, Text.isBlank c = true
  nonempty : body ≠ []
  oneLine : '\n' ∉ body

/-- The line is made as a command is: its digits are the number of the turn, and what comes after
the colon is, without blanks at its ends, the message. -/
def Spells (line : String) (command : Command) : Prop :=
  ∃ mark digits blanks body, MadeOf line.toList mark digits blanks body ∧
    Text.ofDecimal digits = command.turn.number.toNat ∧
    command.message = Text.trim (String.ofList (blanks ++ body))

/-- What stands after the colon of a line. -/
def afterColon (line : String) : List Char := (line.toList.dropWhile (· ≠ ':')).drop 1

end Casefile.Command
