namespace Casefile.Text

/-!
Patterns of text.

A pattern is a sequence of parts.  Each part takes characters of one class, and together they take
the whole text.  A part tries to take as much as it can; it gives characters back, one at a time,
while the parts after it cannot take what it leaves.
-/

structure Part where
  accepts : Char → Bool
  /-- Whether the part may take so many characters. -/
  allows : Nat → Bool

namespace Part

def once (accepts : Char → Bool) : Part := ⟨accepts, (· == 1)⟩

/-- At least one character. -/
def many (accepts : Char → Bool) : Part := ⟨accepts, fun count => decide (0 < count)⟩

def any (accepts : Char → Bool) : Part := ⟨accepts, fun _ => true⟩

/-- How many characters the part can take from the front of a text, the greatest number first. -/
def tries (part : Part) (cs : List Char) : List Nat :=
  ((List.range ((cs.takeWhile part.accepts).length + 1)).filter part.allows).reverse

end Part

/-- The pieces that the parts of a pattern take, in the first way that uses up the text. -/
def split : List Part → List Char → Option (List (List Char))
  | [], [] => some []
  | [], _ :: _ => none
  | part :: parts, cs => (part.tries cs).findSome? fun count =>
      (split parts (cs.drop count)).map (cs.take count :: ·)

end Casefile.Text
