import Casefile.Json.Lexer

namespace Casefile.Json

/-!
JSON text as a value.

`assemble` reads the tokens from left to right with a stack of the arrays and objects that are
still open.  One value must be complete when the tokens end, and nothing may follow it.
-/

/-- An array or object that is still open; what it holds so far comes last first. -/
inductive Frame where
  | array (items : List Json)
  | object (members : List (Literal × Json))
  | member (members : List (Literal × Json)) (key : Literal)

/-- What may come next, and what is open around it. -/
inductive Reading where
  | value (frames : List Frame)
  | firstItem (frames : List Frame)
  | firstKey (frames : List Frame)
  | key (members : List (Literal × Json)) (frames : List Frame)
  | colon (members : List (Literal × Json)) (key : Literal) (frames : List Frame)
  | separator (frame : Frame) (frames : List Frame)
  | done (value : Json)

/-- Give a complete value to what is open around it. -/
def complete (value : Json) : List Frame → Reading
  | [] => .done value
  | .array items :: frames => .separator (.array (value :: items)) frames
  | .object members :: frames => .separator (.object members) frames
  | .member members key :: frames => .separator (.object ((key, value) :: members)) frames

def startValue (frames : List Frame) : Token → Option Reading
  | .openArray => some (.firstItem frames)
  | .openObject => some (.firstKey frames)
  | .null => some (complete .null frames)
  | .bool value => some (complete (.bool value) frames)
  | .int value => some (complete (.int value) frames)
  | .real spelling => some (complete (.real spelling) frames)
  | .text literal => some (complete (.text literal) frames)
  | _ => none

def step : Reading → Token → Option Reading
  | .value frames, token => startValue frames token
  | .firstItem frames, .closeArray => some (complete (.array []) frames)
  | .firstItem frames, token => startValue (.array [] :: frames) token
  | .firstKey frames, .closeObject => some (complete (.object []) frames)
  | .firstKey frames, .text key => some (.colon [] key frames)
  | .key members frames, .text key => some (.colon members key frames)
  | .colon members key frames, .colon => some (.value (.member members key :: frames))
  | .separator (.array items) frames, .comma => some (.value (.array items :: frames))
  | .separator (.array items) frames, .closeArray =>
    some (complete (.array items.reverse) frames)
  | .separator (.object members) frames, .comma => some (.key members frames)
  | .separator (.object members) frames, .closeObject =>
    some (complete (.object members.reverse) frames)
  | _, _ => none

def run : Reading → List Token → Option Reading
  | reading, [] => some reading
  | reading, token :: rest =>
    match step reading token with
    | some next => run next rest
    | none => none

def assemble (tokens : List Token) : Option Json :=
  match run (.value []) tokens with
  | some (.done value) => some value
  | _ => none

def readChars (cs : List Char) : Option Json := (lex cs).bind assemble

def read (text : String) : Option Json := readChars text.toList

end Casefile.Json
