import Casefile.Json.Printer

namespace Casefile.Json

/-!
The texts of a value.

A text spells a value when it is made of the value's tokens one after the other, each of them
spelled in any way, with blanks in front of each and at the end wherever one likes.
-/

/-- Whether a text is one token and nothing else. -/
def Token.SpelledBy (token : Token) (spelling : List Char) : Prop :=
  nextToken spelling = some (token, [])

inductive Spelled : List Token → List Char → Prop where
  | done {gap : List Char} (blank : ∀ c ∈ gap, isGap c) : Spelled [] gap
  | token {gap spelling text : List Char} {token : Token} {tokens : List Token}
    (blank : ∀ c ∈ gap, isGap c) (spells : token.SpelledBy spelling)
    (rest : Spelled tokens text) : Spelled (token :: tokens) (gap ++ (spelling ++ text))

def Spells (text : String) (value : Json) : Prop := Spelled value.tokens text.toList

end Casefile.Json
