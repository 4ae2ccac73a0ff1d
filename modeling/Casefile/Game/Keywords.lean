import Casefile.Data.Table
import Casefile.Text.Blank
import Casefile.Text.LowerCase
import Casefile.Text.WordClass

namespace Casefile

/-!
The words of a message, and keywords among them.

Words are compared in lower case.  The message is written in lower case as a whole before it is cut
into words, and each keyword on its own.
-/

/-- A set of words in increasing order. -/
abbrev Words := Table String Unit

namespace Words

def ofList (words : List String) : Words := Table.ofList (words.map fun word => (word, ()))

def ofMessage (message : String) : Words :=
  ofList ((Text.runs (!Text.isWord ·) (Text.lowerChars message.toList)).map String.ofList)

def mentions (words : Words) (keyword : String) : Bool := words.contains (Text.lower keyword)

def mentionsAll (words : Words) (keywords : List String) : Bool := keywords.all words.mentions

def mentionsAny (words : Words) (keywords : List String) : Bool := keywords.any words.mentions

end Words

end Casefile
