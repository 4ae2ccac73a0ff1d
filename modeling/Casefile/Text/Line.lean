namespace Casefile.Text

/-!
Lines of bytes, and lines of characters.

A line ends with a line feed, or at the end of the input if there is something left.  A carriage
return before the line feed belongs to the end of the line.
-/

section Marks

variable {α : Type} [DecidableEq α]

/-- The items up to each mark with it, and what is left at the end. -/
def cutAfter (mark : α) : List α → List (List α)
  | [] => []
  | item :: rest =>
    if item = mark then [item] :: cutAfter mark rest
    else match cutAfter mark rest with
      | [] => [[item]]
      | first :: others => (item :: first) :: others

def withoutEnd (lineFeed carriageReturn : α) (line : List α) : List α :=
  if line.getLast? = some lineFeed then
    if line.dropLast.getLast? = some carriageReturn then line.dropLast.dropLast else line.dropLast
  else line

end Marks

/-- The bytes up to each line feed with it, and what is left at the end. -/
def cutLines (bytes : List UInt8) : List (List UInt8) := cutAfter 10 bytes

/-- The text of a line, unless its bytes are none. -/
def lineText (line : List UInt8) : Option String :=
  String.fromUTF8? ⟨(withoutEnd 10 13 line).toArray⟩

def linesOf (bytes : List UInt8) : List (Option String) := (cutLines bytes).map lineText

/-- The lines of a text. -/
def lines (text : String) : List String :=
  (cutAfter '\n' text.toList).map fun line => String.ofList (withoutEnd '\n' '\r' line)

end Casefile.Text
