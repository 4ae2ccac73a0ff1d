namespace Casefile.Template

/-!
Texts with placeholders for variables.

A placeholder is a name between `${` and the next `}`.  `cut` takes a text apart from left to right
in a single pass, and `expand` puts a value in the place of each piece; values are not taken apart
again.
-/

inductive Piece where
  | plain (c : Char)
  /-- A name between `${` and `}`. -/
  | hole (name : List Char)
  /-- What comes after a `${` that no `}` ends. -/
  | unclosed (rest : List Char)
  deriving DecidableEq

def Piece.spelling : Piece → List Char
  | .plain c => [c]
  | .hole name => '$' :: '{' :: (name ++ ['}'])
  | .unclosed rest => '$' :: '{' :: rest

/-- What takes the place of a piece.  A variable that is not set leaves nothing; a hole without a
name and one that is not closed stay as they are. -/
def Piece.value (valueOf : String → Option String) : Piece → List Char
  | .hole (c :: name) =>
    match valueOf (String.ofList (c :: name)) with
    | some value => value.toList
    | none => []
  | piece => piece.spelling

def cut (cs : List Char) : List Piece :=
  match cs with
  | [] => []
  | '$' :: '{' :: rest =>
    match _closed : rest.dropWhile (· ≠ '}') with
    | [] => [.unclosed rest]
    | _ :: after => .hole (rest.takeWhile (· ≠ '}')) :: cut after
  | c :: rest => .plain c :: cut rest
termination_by cs.length
decreasing_by
  · have shorter := (List.dropWhile_suffix (· ≠ '}') (l := rest)).length_le
    simp only [_closed, List.length_cons] at shorter ⊢
    omega
  · simp

def expand (valueOf : String → Option String) (template : String) : String :=
  String.ofList ((cut template.toList).flatMap (Piece.value valueOf))

def Piece.name? : Piece → Option String
  | .hole (c :: name) => some (String.ofList (c :: name))
  | _ => none

def names (template : String) : List String := (cut template.toList).filterMap Piece.name?

end Casefile.Template
