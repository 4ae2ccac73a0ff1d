import Casefile.Toml.Document
import Casefile.Toml.Number
import Casefile.Toml.Token

namespace Casefile.Toml

/-!
The text of a settings file as a table.

The tokens are read one after the other.  What is being read is the start of a line, a key, a
header, or a value with the arrays and tables that are open around it; a line that is complete
changes the document at once, and the first one that does not fit is the end.
-/

inductive KeyPart where
  | name (written : String)
  | dot
  deriving DecidableEq

def isKeyChar (c : Char) : Bool := c.isAlphanum || c = '_' || c = '-'

/-- The parts of a word in a key: names with dots between them, of which the outer ones may belong to
the words around it. -/
def wordParts : List (List Char) → Option (List KeyPart)
  | [] => some []
  | piece :: rest =>
    if !piece.all isKeyChar then none
    else do
      let parts ← wordParts rest
      let after := if rest.isEmpty then parts else .dot :: parts
      return if piece.isEmpty then after else .name (String.ofList piece) :: after

def keyParts : List Token → Option (List KeyPart)
  | [] => some []
  | .gap :: rest => keyParts rest
  | .quoted false written :: rest => (keyParts rest).map (.name written :: ·)
  | .word cs :: rest => do return (← wordParts (Text.pieces (· = '.') cs)) ++ (← keyParts rest)
  | _ :: _ => none

def keyNames : List KeyPart → Option (List String)
  | [.name last] => some [last]
  | .name first :: .dot :: rest => (keyNames rest).map (first :: ·)
  | _ => none

structure Key where
  way : List String
  last : String

/-- The key that tokens write; they are given last first. -/
def Key.ofTokens (tokens : List Token) : Option Key := do
  let names ← keyNames (← keyParts tokens.reverse)
  let last ← names.getLast?
  return { way := names.dropLast, last }

def ofWord (cs : List Char) : Option Toml :=
  if cs = "true".toList then some (.bool true)
  else if cs = "false".toList then some (.bool false)
  else if (splitSign cs).2 = "inf".toList || (splitSign cs).2 = "nan".toList then some (.real true)
  else match whole? cs, real? cs with
    | some value, _ => some (.int value)
    | none, some value => some (.real value.inRange)
    | none, none => if isMoment cs then some .moment else none

structure Goal where
  document : Document
  key : Key

/-- An array or a table in braces that is still open; items come last first. -/
inductive Frame where
  | items (items : List Toml)
  | fields (entries : Toml) (key : Key)

inductive Reading where
  | line (document : Document)
  | key (document : Document) (tokens : List Token)
  | bracket (document : Document)
  | header (document : Document) (element : Bool) (tokens : List Token)
  | closing (document : Document) (tokens : List Token)
  | value (goal : Goal) (frames : List Frame)
  | item (goal : Goal) (items : List Toml) (frames : List Frame)
  | nextItem (goal : Goal) (items : List Toml) (frames : List Frame)
  | field (goal : Goal) (entries : Toml) (frames : List Frame)
  | fieldKey (goal : Goal) (entries : Toml) (tokens : List Token) (frames : List Frame)
  | nextField (goal : Goal) (entries : Toml) (frames : List Frame)
  | lineEnd (document : Document)

def maxDepth : Nat := 80

/-- Give a complete value to what is open around it, or to the key of its line. -/
def complete (value : Toml) (goal : Goal) : List Frame → Option Reading
  | [] => (goal.document.assign goal.key.way goal.key.last value).map .lineEnd
  | .items items :: frames => some (.nextItem goal (value :: items) frames)
  | .fields entries key :: frames =>
    (assign key.way key.last value entries).map fun entries => .nextField goal entries frames

def startValue (goal : Goal) (frames : List Frame) : Token → Option Reading
  | .quoted _ written => complete (.text written) goal frames
  | .word cs => (ofWord cs).bind fun value => complete value goal frames
  | .openBracket => if frames.length < maxDepth then some (.item goal [] frames) else none
  | .openBrace =>
    if frames.length < maxDepth then some (.field goal (.table .braces []) frames) else none
  | _ => none

/-- Whether a token separates others without a meaning of its own, line ends among them. -/
def Token.isSpace (token : Token) : Bool := token = .gap || token = .newline

def startLine (document : Document) : Token → Option Reading
  | .gap | .newline => some (.line document)
  | .openBracket => some (.bracket document)
  | token => some (.key document [token])

def readItem (goal : Goal) (items : List Toml) (frames : List Frame) (token : Token) :
    Option Reading :=
  if token.isSpace then some (.item goal items frames)
  else if token = .closeBracket then complete (.array .brackets items.reverse) goal frames
  else startValue goal (.items items :: frames) token

def readNextItem (goal : Goal) (items : List Toml) (frames : List Frame) (token : Token) :
    Option Reading :=
  if token.isSpace then some (.nextItem goal items frames)
  else if token = .closeBracket then complete (.array .brackets items.reverse) goal frames
  else if token = .comma then some (.item goal items frames)
  else none

def readField (goal : Goal) (entries : Toml) (frames : List Frame) (token : Token) :
    Option Reading :=
  if token.isSpace then some (.field goal entries frames)
  else if token = .closeBrace then complete entries goal frames
  else some (.fieldKey goal entries [token] frames)

def readNextField (goal : Goal) (entries : Toml) (frames : List Frame) (token : Token) :
    Option Reading :=
  if token.isSpace then some (.nextField goal entries frames)
  else if token = .closeBrace then complete entries goal frames
  else if token = .comma then some (.field goal entries frames)
  else none

def step : Reading → Token → Option Reading
  | .line document, token => startLine document token
  | .key document tokens, .equals =>
    (Key.ofTokens tokens).map fun key => .value { document, key } []
  | .key document tokens, token => some (.key document (token :: tokens))
  | .bracket document, .openBracket => some (.header document true [])
  | .bracket document, token => some (.header document false [token])
  | .header document true tokens, .closeBracket => some (.closing document tokens)
  | .header document false tokens, .closeBracket => do
    let key ← Key.ofTokens tokens
    return .lineEnd (← document.head false key.way key.last)
  | .header document element tokens, token => some (.header document element (token :: tokens))
  | .closing document tokens, .closeBracket => do
    let key ← Key.ofTokens tokens
    return .lineEnd (← document.head true key.way key.last)
  | .closing _ _, _ => none
  | .value goal frames, .gap => some (.value goal frames)
  | .value goal frames, token => startValue goal frames token
  | .item goal items frames, token => readItem goal items frames token
  | .nextItem goal items frames, token => readNextItem goal items frames token
  | .field goal entries frames, token => readField goal entries frames token
  | .fieldKey goal entries tokens frames, .equals =>
    (Key.ofTokens tokens).map fun key => .value goal (.fields entries key :: frames)
  | .fieldKey goal entries tokens frames, token =>
    some (.fieldKey goal entries (token :: tokens) frames)
  | .nextField goal entries frames, token => readNextField goal entries frames token
  | .lineEnd document, .gap => some (.lineEnd document)
  | .lineEnd document, .newline => some (.line document)
  | .lineEnd _, _ => none

def run : Reading → List Token → Option Reading
  | reading, [] => some reading
  | reading, token :: rest =>
    match step reading token with
    | some next => run next rest
    | none => none

def assemble (tokens : List Token) : Option Toml :=
  match run (.line {}) tokens with
  | some (.line document) | some (.lineEnd document) => some document.root
  | _ => none

def byteOrderMark : Char := Char.ofNat 0xFEFF

def read (text : String) : Option Toml :=
  match text.toList with
  | c :: rest => (lex (if c = byteOrderMark then rest else c :: rest)).bind assemble
  | [] => some (Document.root {})

end Casefile.Toml
