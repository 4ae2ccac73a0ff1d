import Casefile.Disk.TempName
import Casefile.Disk.Tree

namespace Casefile

/-!
Files and directories under a working directory.

Each operation follows the rules of a hierarchical file system without links: the directories on
the way must exist, an entry is created or replaced only where its kind allows it, and an operation
that fails changes nothing.
-/

inductive IoError where
  | notFound
  | alreadyExists
  | notADirectory
  | isADirectory
  | directoryNotEmpty
  | nameTooLong
  | busy
  | invalidMove
  | invalidText
  deriving DecidableEq

def IoError.message : IoError → String
  | .notFound => "No such file or directory (os error 2)"
  | .alreadyExists => "File exists (os error 17)"
  | .notADirectory => "Not a directory (os error 20)"
  | .isADirectory => "Is a directory (os error 21)"
  | .directoryNotEmpty => "Directory not empty (os error 39)"
  | .nameTooLong => "File name too long (os error 36)"
  | .busy => "Device or resource busy (os error 16)"
  | .invalidMove => "Invalid argument (os error 22)"
  | .invalidText => "stream did not contain valid UTF-8"

/-- A file tree, the directory in which relative paths start, and the names that temporary files are
given. -/
structure Disk where
  root : Node
  cwd : List String
  tempNames : TempNames := .counted

/-- The directory entry that a path names, or a directory named by dots or by the root. -/
inductive Target where
  | entry (directory : List String) (name : String)
  | dots (directory : List String)

namespace Disk

/-- Follow steps from a location to another, through directories that exist. -/
def walk (root : Node) (location : List String) : List Step → Except IoError (List String)
  | [] => .ok location
  | step :: rest =>
    match root.get? location with
    | some (.dir entries) =>
      match step with
      | .stay => walk root location rest
      | .up => walk root location.dropLast rest
      | .down name =>
        if maxNameBytes < name.utf8ByteSize then .error .nameTooLong
        else match Table.seek name entries with
          | some _ => walk root (location ++ [name]) rest
          | none => .error .notFound
    | some (.file _) => .error .notADirectory
    | none => .error .notFound

def start (disk : Disk) (route : Route) : List String := if route.absolute then [] else disk.cwd

def locate (disk : Disk) (route : Route) : Except IoError (List String) :=
  if route.overlong then .error .nameTooLong
  else if route.steps.isEmpty && !route.absolute then .error .notFound
  else walk disk.root (disk.start route) (route.steps ++ if route.slash then [.stay] else [])

def node (disk : Disk) (route : Route) : Except IoError Node :=
  match disk.locate route with
  | .error reason => .error reason
  | .ok location =>
    match disk.root.get? location with
    | some node => .ok node
    | none => .error .notFound

def pathExists (disk : Disk) (path : Path) : Bool :=
  match disk.node path.route with
  | .ok _ => true
  | .error _ => false

def isDir (disk : Disk) (route : Route) : Bool :=
  match disk.node route with
  | .ok node => node.isDir
  | .error _ => false

def readBytes (disk : Disk) (path : Path) : Except IoError ByteArray :=
  match disk.node path.route with
  | .error reason => .error reason
  | .ok (.dir _) => .error .isADirectory
  | .ok (.file bytes) => .ok bytes

def readText (disk : Disk) (path : Path) : Except IoError String :=
  match disk.readBytes path with
  | .error reason => .error reason
  | .ok bytes =>
    match String.fromUTF8? bytes with
    | some text => .ok text
    | none => .error .invalidText

def target (disk : Disk) (route : Route) : Except IoError Target :=
  if route.overlong then .error .nameTooLong
  else match route.steps.getLast? with
    | none => if route.absolute then .ok (.dots []) else .error .notFound
    | some last =>
      match walk disk.root (disk.start route) route.steps.dropLast with
      | .error reason => .error reason
      | .ok directory =>
        match disk.root.get? directory with
        | some (.dir _) =>
          match last with
          | .down name => .ok (.entry directory name)
          | .stay | .up => .ok (.dots directory)
        | some (.file _) => .error .notADirectory
        | none => .error .notFound

/-- The node under a name that is short enough to be looked for. -/
def entry (disk : Disk) (directory : List String) (name : String) :
    Except IoError (Option Node) :=
  if maxNameBytes < name.utf8ByteSize then .error .nameTooLong
  else .ok (disk.root.get? (directory ++ [name]))

def link (disk : Disk) (directory : List String) (name : String) (child : Node) : Disk :=
  { disk with root := disk.root.link directory name child }

def unlink (disk : Disk) (directory : List String) (name : String) : Disk :=
  { disk with root := disk.root.unlink directory name }

@[simp] theorem link_cwd (disk : Disk) (directory : List String) (name : String) (child : Node) :
    (disk.link directory name child).cwd = disk.cwd := rfl

@[simp] theorem unlink_cwd (disk : Disk) (directory : List String) (name : String) :
    (disk.unlink directory name).cwd = disk.cwd := rfl

def makeDir (disk : Disk) (route : Route) : Except IoError Disk :=
  match disk.target route with
  | .error reason => .error reason
  | .ok (.dots _) => .error .alreadyExists
  | .ok (.entry directory name) =>
    match disk.entry directory name with
    | .error reason => .error reason
    | .ok (some _) => .error .alreadyExists
    | .ok none => .ok (disk.link directory name (.dir []))

/-- Create the directory at the end of some steps, last step first, and those on the way to it that
do not exist. -/
def makeDirsAt (absolute overlong : Bool) (disk : Disk) :
    List Step → Except IoError Unit × Disk
  | [] => (.ok (), disk)
  | step :: above =>
    let route : Route := ⟨absolute, (step :: above).reverse, false, overlong⟩
    match disk.makeDir route with
    | .ok disk => (.ok (), disk)
    | .error .notFound =>
      match makeDirsAt absolute overlong disk above with
      | (.error reason, disk) => (.error reason, disk)
      | (.ok (), disk) =>
        match disk.makeDir route with
        | .ok disk => (.ok (), disk)
        | .error reason => if disk.isDir route then (.ok (), disk) else (.error reason, disk)
    | .error reason => if disk.isDir route then (.ok (), disk) else (.error reason, disk)

def makeDirs (disk : Disk) (route : Route) : Except IoError Unit × Disk :=
  makeDirsAt route.absolute route.overlong disk route.steps.reverse

def writeFile (disk : Disk) (path : Path) (bytes : ByteArray) : Except IoError Disk :=
  match disk.target path.route with
  | .error reason => .error reason
  | .ok (.dots _) => .error .isADirectory
  | .ok (.entry directory name) =>
    match disk.entry directory name with
    | .error reason => .error reason
    | .ok (some (.dir _)) => .error .isADirectory
    | .ok (some (.file _)) =>
      if path.route.slash then .error .notADirectory
      else .ok (disk.link directory name (.file bytes))
    | .ok none =>
      if path.route.slash then .error .isADirectory
      else .ok (disk.link directory name (.file bytes))

/-- Open a file in order to add to it; one that does not exist is created empty. -/
def openToAppend (disk : Disk) (path : Path) : Except IoError Disk :=
  match disk.readBytes path with
  | .ok _ => .ok disk
  | .error .notFound => disk.writeFile path .empty
  | .error reason => .error reason

def removeFile (disk : Disk) (path : Path) : Except IoError Disk :=
  match disk.target path.route with
  | .error reason => .error reason
  | .ok (.dots _) => .error .isADirectory
  | .ok (.entry directory name) =>
    match disk.entry directory name with
    | .error reason => .error reason
    | .ok none => .error .notFound
    | .ok (some (.dir _)) => .error .isADirectory
    | .ok (some (.file _)) =>
      if path.route.slash then .error .notADirectory else .ok (disk.unlink directory name)

/-- Why a node may not take the place of what is there, if it may not. -/
def moveRefusal (moved : Node) : Option Node → Option IoError
  | none => none
  | some (.file _) => if moved.isDir then some .notADirectory else none
  | some (.dir entries) =>
    if !moved.isDir then some .isADirectory
    else if entries.isEmpty then none
    else some .directoryNotEmpty

/-- Move a file or directory, over what is there if the kinds allow it. -/
def rename (disk : Disk) (source destination : Path) : Except IoError Disk :=
  match disk.target source.route, disk.target destination.route with
  | .error reason, _ => .error reason
  | .ok _, .error reason => .error reason
  | .ok (.entry fromDir fromName), .ok (.entry toDir toName) =>
    match disk.entry fromDir fromName with
    | .error reason => .error reason
    | .ok none => .error .notFound
    | .ok (some moved) =>
      match disk.entry toDir toName with
      | .error reason => .error reason
      | .ok replaced =>
        if !moved.isDir && (source.route.slash || destination.route.slash) then
          .error .notADirectory
        else if fromDir = toDir ∧ fromName = toName then .ok disk
        else if (fromDir ++ [fromName]).isPrefixOf toDir then .error .invalidMove
        else if (toDir ++ [toName]).isPrefixOf fromDir then .error .directoryNotEmpty
        else match moveRefusal moved replaced with
          | some reason => .error reason
          | none => .ok ((disk.unlink fromDir fromName).link toDir toName moved)
  | .ok _, .ok _ => .error .busy

end Disk

end Casefile
