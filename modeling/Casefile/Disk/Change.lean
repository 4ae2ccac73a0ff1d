import Casefile.Disk.Basic

namespace Casefile

/-!
A disk as a copy of part of another file system.

`Node.graft` enters into a tree what was found at a location.  `Node.changes` lists what has to be
done elsewhere after a tree has changed here; what is new comes before what is gone.
-/

inductive Change where
  | makeDir (location : List String)
  | write (location : List String) (bytes : ByteArray)
  | remove (location : List String)

/-- The location to which a route leads where every directory on the way exists. -/
def Route.location (route : Route) (cwd : List String) : List String :=
  route.steps.foldl
    (fun location step =>
      match step with
      | .stay => location
      | .up => location.dropLast
      | .down name => location ++ [name])
    (if route.absolute then [] else cwd)

namespace Node

/-- Put a node at a location, with the directories on the way to it. -/
def graft (node : Node) : List String → Node → Node
  | [], _ => node
  | name :: rest, .dir entries =>
    .dir (Table.put name (graft node rest ((Table.seek name entries).getD (.dir []))) entries)
  | name :: rest, .file _ => .dir [(name, graft node rest (.dir []))]

mutual

def creation (location : List String) : Node → List Change
  | .file bytes => [.write location bytes]
  | .dir entries => .makeDir location :: creationOf location entries

def creationOf (location : List String) : List (String × Node) → List Change
  | [] => []
  | (name, node) :: rest => creation (location ++ [name]) node ++ creationOf location rest

end

/-- What removes the entries of a directory that are not among some others. -/
def removal (location : List String) (before after : List (String × Node)) : List Change :=
  (before.filter fun entry => (Table.seek entry.1 after).isNone).map fun entry =>
    .remove (location ++ [entry.1])

mutual

/-- What turns the node at a location into another. -/
def changes (location : List String) (before : Node) : Node → List Change
  | .file bytes =>
    match before with
    | .file old => if old = bytes then [] else [.write location bytes]
    | .dir _ => [.remove location, .write location bytes]
  | .dir entries =>
    match before with
    | .file _ => .remove location :: .makeDir location :: creationOf location entries
    | .dir old => changesOf location old entries ++ removal location old entries

def changesOf (location : List String) (before : List (String × Node)) :
    List (String × Node) → List Change
  | [] => []
  | (name, node) :: rest =>
    (match Table.seek name before with
      | some old => changes (location ++ [name]) old node
      | none => creation (location ++ [name]) node) ++ changesOf location before rest

end

end Node

def Disk.changesSince (disk before : Disk) : List Change := Node.changes [] before.root disk.root

end Casefile
