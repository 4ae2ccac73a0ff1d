import Casefile.Text.Ranges

namespace Casefile.Text

/-!
Blank characters, trimming, and the words between blanks.
-/

def blankRanges : List (Nat × Nat) := [
  (0x9, 0xD), (0x20, 0x20), (0x85, 0x85), (0xA0, 0xA0), (0x1680, 0x1680), (0x2000, 0x200A),
  (0x2028, 0x2029), (0x202F, 0x202F), (0x205F, 0x205F), (0x3000, 0x3000)]

def isBlank (c : Char) : Bool := inRanges blankRanges c

def trimChars (cs : List Char) : List Char :=
  ((cs.dropWhile isBlank).reverse.dropWhile isBlank).reverse

def trim (text : String) : String := String.ofList (trimChars text.toList)

/-- The pieces of a sequence between separators, one more than there are separators. -/
def pieces (isSeparator : Char → Bool) : List Char → List (List Char)
  | [] => [[]]
  | c :: rest =>
    match pieces isSeparator rest with
    | [] => [[c]]
    | first :: others =>
      if isSeparator c then [] :: first :: others else (c :: first) :: others

/-- The maximal runs of characters that are no separators, from left to right. -/
def runs (isSeparator : Char → Bool) (cs : List Char) : List (List Char) :=
  (pieces isSeparator cs).filter (!·.isEmpty)

def words (text : String) : List String := (runs isBlank text.toList).map String.ofList

end Casefile.Text
