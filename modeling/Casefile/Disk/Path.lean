import Casefile.Text.Blank

namespace Casefile

/-!
Paths as they are written, and the way that they lead through directories.

A path keeps its spelling, because it is shown as it was given.  `Path.route` reads it as steps
from the root or from the working directory.
-/

structure Path where
  text : String
  deriving DecidableEq

inductive Step where
  | stay
  | up
  | down (name : String)
  deriving DecidableEq

structure Route where
  absolute : Bool
  steps : List Step
  slash : Bool
  /-- Whether the path is longer than any path may be. -/
  overlong : Bool
  deriving DecidableEq

def maxPathBytes : Nat := 4095

def maxNameBytes : Nat := 255

def Step.ofPart (part : List Char) : Step :=
  if part = ['.'] then .stay
  else if part = ['.', '.'] then .up
  else .down (String.ofList part)

namespace Path

def isAbsolute (path : Path) : Bool := path.text.toList.head? = some '/'

def route (path : Path) : Route where
  absolute := path.isAbsolute
  steps := (Text.runs (· = '/') path.text.toList).map Step.ofPart
  slash := path.text.toList.getLast? = some '/'
  overlong := maxPathBytes < path.text.utf8ByteSize

/-- The path that leads on from another; one that starts at the root takes its place. -/
def join (base tail : Path) : Path :=
  if tail.isAbsolute then tail
  else if base.text.isEmpty || base.text.toList.getLast? = some '/' then ⟨base.text ++ tail.text⟩
  else ⟨base.text ++ "/" ++ tail.text⟩

/-- What is left of a path, last character first, without slashes and lone dots at its end. -/
def trimEnd : List Char → List Char
  | '/' :: rest => trimEnd rest
  | '.' :: '/' :: rest => trimEnd rest
  | cs => cs

def parent (path : Path) : Path :=
  match trimEnd ((trimEnd path.text.toList.reverse).dropWhile (· ≠ '/')) with
  | [] => if path.isAbsolute then ⟨"/"⟩ else ⟨"."⟩
  | above => ⟨String.ofList above.reverse⟩

/-- What comes before the last dot and after it; a name that starts with its only dot has no
extension. -/
def splitExtension (name : List Char) : List Char × Option (List Char) :=
  let after := (name.reverse.takeWhile (· ≠ '.')).reverse
  let before := name.take (name.length - after.length - 1)
  if after.length = name.length || before.isEmpty then (name, none) else (before, some after)

def splitName (path : Path) : Option (List Char × List Char × List Char) :=
  let cs := path.text.toList
  let kept := trimEnd cs.reverse
  let name := (kept.takeWhile (· ≠ '/')).reverse
  if name = [] ∨ name = ['.'] ∨ name = ['.', '.'] then none
  else some ((kept.drop name.length).reverse, name, cs.drop kept.length)

/-- The file name in which an extension takes the place of another.  A name such as `..json`, which
has nothing but a dot before its extension, becomes `..`. -/
def extended (name trailing extension : List Char) : List Char :=
  match splitExtension name with
  | (['.'], some (_ :: _)) => if trailing = [] then ['.', '.'] else '.' :: '.' :: extension
  | (stem, _) => stem ++ '.' :: extension

/-- The path with another extension; a path without a file name stays as it is. -/
def withExtension (path : Path) (extension : String) : Path :=
  match path.splitName with
  | none => path
  | some (before, name, trailing) =>
    ⟨String.ofList (before ++ extended name trailing extension.toList)⟩

/-- Where the last version of a file is kept while a new one takes its place. -/
def backup (path : Path) : Path := path.withExtension "bak"

end Path

end Casefile
