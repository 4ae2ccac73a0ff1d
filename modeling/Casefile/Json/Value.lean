namespace Casefile

/-!
JSON values and their tokens.

Numbers are whole numbers or spellings: no field of the game takes a fraction, an exponent or a
negative zero, so such a number keeps its spelling and is never evaluated.  A string literal stands
for a text unless one of its escapes names half of a surrogate pair; such a literal is well formed
and has no text.
-/

namespace Json

/-- What a string literal stands for; `none` when it names half of a surrogate pair. -/
abbrev Literal := Option String

end Json

/-- A JSON value. Members of an object keep the order in which they were written. -/
inductive Json where
  | null
  | bool (value : Bool)
  | int (value : Int)
  | real (spelling : List Char)
  | text (literal : Json.Literal)
  | array (items : List Json)
  | object (members : List (Json.Literal × Json))

namespace Json

abbrev string (text : String) : Json := .text (some text)

abbrev nat (n : Nat) : Json := .int n

/-- An object whose absent members are left out. -/
def record (members : List (String × Option Json)) : Json :=
  .object (members.filterMap fun member => member.2.map fun value => (some member.1, value))

inductive Token where
  | openArray
  | closeArray
  | openObject
  | closeObject
  | comma
  | colon
  | null
  | bool (value : Bool)
  | int (value : Int)
  | real (spelling : List Char)
  | text (literal : Literal)
  deriving DecidableEq

end Json

end Casefile
