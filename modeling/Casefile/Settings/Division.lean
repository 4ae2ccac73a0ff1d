import Casefile.Settings.Template

namespace Casefile.Template

/-!
What a template is made of.

It is a row of parts: literal texts, placeholders, and perhaps an end that no brace closes.  Which
rows are divisions of a template is said of the row alone, part by part, each with what comes after
it.
-/

def opening : List Char := ['$', '{']

inductive Part where
  | literal (text : List Char)
  /-- A placeholder with a name. -/
  | named (name : List Char)
  /-- A placeholder without a name. -/
  | nameless
  /-- An opening that nothing closes, with all that comes after it. -/
  | unclosed (rest : List Char)
  deriving DecidableEq

namespace Part

def isLiteral : Part → Bool
  | .literal _ => true
  | .named _ | .nameless | .unclosed _ => false

def spelling : Part → List Char
  | .literal text => text
  | .named name => opening ++ (name ++ ['}'])
  | .nameless => opening ++ ['}']
  | .unclosed rest => opening ++ rest

/-- What a part is expanded to; a variable that is not set leaves nothing. -/
def value (valueOf : String → Option String) : Part → List Char
  | .named name => ((valueOf (String.ofList name)).getD "").toList
  | part => part.spelling

end Part

def spelled (parts : List Part) : List Char := parts.flatMap Part.spelling

/-- Whether a part may stand before other parts.  A literal goes on until the next opening or the
end, so no opening starts inside it, be it that it ends in what comes after. -/
def Part.Fits (after : List Part) : Part → Prop
  | .literal text =>
    text ≠ [] ∧ (∀ next ∈ after.head?, next.isLiteral = false) ∧
      ∀ late, late <:+ text → late ≠ [] → ¬ opening <+: late ++ spelled after
  | .named name => name ≠ [] ∧ '}' ∉ name
  | .nameless => True
  | .unclosed rest => '}' ∉ rest ∧ after = []

def AllFit : List Part → Prop
  | [] => True
  | part :: after => part.Fits after ∧ AllFit after

/-- A row of parts that fit spells the template. -/
structure Divides (template : List Char) (parts : List Part) : Prop where
  whole : spelled parts = template
  fit : AllFit parts

def Part.pieces : Part → List Piece
  | .literal text => text.map .plain
  | .named name => [.hole name]
  | .nameless => [.hole []]
  | .unclosed rest => [.unclosed rest]

/-- The parts that pieces make: a run of plain characters is one literal. -/
def gather : List Piece → List Part
  | [] => []
  | .plain c :: rest =>
    match gather rest with
    | .literal text :: later => .literal (c :: text) :: later
    | later => .literal [c] :: later
  | .hole [] :: rest => .nameless :: gather rest
  | .hole (c :: name) :: rest => .named (c :: name) :: gather rest
  | .unclosed rest :: later => .unclosed rest :: gather later

end Casefile.Template
