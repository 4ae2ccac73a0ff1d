import Casefile.Data.Table

namespace Casefile

/-!
File trees.

A directory lists its entries in order of their names.  `Node.get?` is what a tree holds at a
location; `Node.link` and `Node.unlink` change one entry of one directory.
-/

inductive Node where
  | file (bytes : ByteArray)
  | dir (entries : List (String × Node))

namespace Node

def isDir : Node → Bool
  | .dir _ => true
  | .file _ => false

def child? (name : String) : Node → Option Node
  | .dir entries => Table.seek name entries
  | .file _ => none

def get? (node : Node) : List String → Option Node
  | [] => some node
  | name :: rest => (node.child? name).bind fun child => child.get? rest

def alter (change : Node → Node) : List String → Node → Node
  | [], node => change node
  | _ :: _, .file bytes => .file bytes
  | name :: rest, .dir entries =>
    match Table.seek name entries with
    | none => .dir entries
    | some child => .dir (Table.put name (alter change rest child) entries)

/-- A directory with one more entry, or with another node in the place of an entry. -/
def withChild (name : String) (child : Node) : Node → Node
  | .dir entries => .dir (Table.put name child entries)
  | .file bytes => .file bytes

def withoutChild (name : String) : Node → Node
  | .dir entries => .dir (entries.filter (·.1 ≠ name))
  | .file bytes => .file bytes

def link (root : Node) (directory : List String) (name : String) (child : Node) : Node :=
  root.alter (withChild name child) directory

def unlink (root : Node) (directory : List String) (name : String) : Node :=
  root.alter (withoutChild name) directory

mutual

/-- The paths of everything inside a node, each directory before what it holds. -/
def listing (above : String) : Node → List (String × Option ByteArray)
  | .file _ => []
  | .dir entries => listingOf above entries

def listingOf (above : String) : List (String × Node) → List (String × Option ByteArray)
  | [] => []
  | (name, .file bytes) :: rest => (above ++ name, some bytes) :: listingOf above rest
  | (name, .dir entries) :: rest =>
    (above ++ name ++ "/", none) :: (listingOf (above ++ name ++ "/") entries
      ++ listingOf above rest)

end

end Node

end Casefile
