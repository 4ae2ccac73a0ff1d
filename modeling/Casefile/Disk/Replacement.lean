import Casefile.Disk.Basic

namespace Casefile

/-!
Replacing a file so that a version of it survives whatever happens.

The new bytes go into a temporary file beside the target, which is then renamed over it.  Where that
is refused and something is in the way, the old file is set aside as a backup, and put back if the
new one still cannot take its place.  `Disk.recover` brings back a backup whose file is missing.

A replacement is a sequence of single steps (`Replacement.step`), each of which the file system may
refuse.  The steps can be stopped anywhere; `Disk.replaceFile` runs all of them.
-/

inductive Stage where
  | makeParent
  | writeTemp
  | install (temp : Path)
  | dropStaleBackup (temp : Path)
  | setAside (temp : Path)
  | installAgain (temp : Path)
  | putBack (temp : Path) (reason : IoError)
  | dropTemp (temp : Path) (reason : IoError)
  | dropBackup
  | finished (outcome : Except IoError Unit)

structure Replacement where
  disk : Disk
  path : Path
  bytes : ByteArray
  stage : Stage := .makeParent

def Disk.namesIn (disk : Disk) (route : Route) : List String :=
  match disk.node route with
  | .ok (.dir entries) => entries.map (·.1)
  | _ => []

def Route.names (route : Route) : List String :=
  route.steps.filterMap fun
    | .down name => some name
    | _ => none

/-- The names that a temporary file beside a path must not have. -/
def Disk.namesNear (disk : Disk) (path : Path) : List String :=
  disk.namesIn path.parent.route ++ path.route.names ++ path.backup.route.names

/-- A path beside another under which there is nothing. -/
def Disk.tempPath (disk : Disk) (path : Path) : Path :=
  path.parent.join ⟨disk.tempNames.draw (disk.namesNear path)⟩

namespace Replacement

/-- What an operation comes to when the file system may refuse it. -/
def attempt (refusal : Option IoError) (result : Except IoError Disk) : Except IoError Disk :=
  match refusal with
  | some reason => .error reason
  | none => result

/-- Go on to one stage with a changed disk, or to another if there is none. -/
def goOn (replacement : Replacement) (result : Except IoError Disk) (succeeded : Stage)
    (failed : IoError → Stage) : Replacement :=
  match result with
  | .ok disk => { replacement with disk, stage := succeeded }
  | .error reason => { replacement with stage := failed reason }

def makeParent (replacement : Replacement) (refusal : Option IoError) : Replacement :=
  match refusal, replacement.disk.makeDirs replacement.path.parent.route with
  | some reason, _ => { replacement with stage := .finished (.error reason) }
  | none, (.ok (), disk) => { replacement with disk, stage := .writeTemp }
  | none, (.error reason, disk) => { replacement with disk, stage := .finished (.error reason) }

def step (replacement : Replacement) (refusal : Option IoError) : Replacement :=
  let disk := replacement.disk
  let path := replacement.path
  let tried := attempt refusal
  match replacement.stage with
  | .makeParent => replacement.makeParent refusal
  | .writeTemp =>
    let temp := disk.tempPath path
    replacement.goOn (tried (disk.writeFile temp replacement.bytes)) (.install temp)
      fun reason => .finished (.error reason)
  | .install temp =>
    replacement.goOn (tried (disk.rename temp path)) (.finished (.ok ()))
      fun reason => if disk.pathExists path then .dropStaleBackup temp else .dropTemp temp reason
  | .dropStaleBackup temp =>
    replacement.goOn (tried (disk.removeFile path.backup)) (.setAside temp)
      fun _ => .setAside temp
  | .setAside temp =>
    replacement.goOn (tried (disk.rename path path.backup)) (.installAgain temp) (.dropTemp temp)
  | .installAgain temp =>
    replacement.goOn (tried (disk.rename temp path)) .dropBackup (.putBack temp)
  | .putBack temp reason =>
    replacement.goOn (tried (disk.rename path.backup path)) (.dropTemp temp reason)
      fun _ => .dropTemp temp reason
  | .dropTemp temp reason =>
    replacement.goOn (tried (disk.removeFile temp)) (.finished (.error reason))
      fun _ => .finished (.error reason)
  | .dropBackup =>
    replacement.goOn (tried (disk.removeFile path.backup)) (.finished (.ok ()))
      fun _ => .finished (.ok ())
  | .finished _ => replacement

/-- Make as many steps as there are entries, each refused as its entry says. -/
def run (replacement : Replacement) (refusals : List (Option IoError)) : Replacement :=
  refusals.foldl step replacement

def maxSteps : Nat := 8

def outcome (replacement : Replacement) : Except IoError Unit :=
  match replacement.stage with
  | .finished outcome => outcome
  | _ => .error .busy

end Replacement

namespace Disk

/-- Give a file new bytes, all of them or none. -/
def replaceFile (disk : Disk) (path : Path) (bytes : ByteArray) : Except IoError Unit × Disk :=
  let replacement : Replacement := { disk, path, bytes }
  let ended := replacement.run (List.replicate Replacement.maxSteps none)
  (ended.outcome, ended.disk)

/-- Bring back the backup of a file that is missing, and say whether there was one. -/
def recover (disk : Disk) (path : Path) : Bool × Disk :=
  if disk.pathExists path || !disk.pathExists path.backup then (false, disk)
  else match disk.rename path.backup path with
    | .ok disk => (true, disk)
    | .error _ => (false, disk)

/-- Remove a file unless it is missing. -/
def discardFile (disk : Disk) (path : Path) : Except IoError Disk :=
  match disk.removeFile path with
  | .error .notFound => .ok disk
  | result => result

def removeWithBackup (disk : Disk) (path : Path) : Except IoError Unit × Disk :=
  match disk.discardFile path with
  | .error reason => (.error reason, disk)
  | .ok disk =>
    match disk.discardFile path.backup with
    | .error reason => (.error reason, disk)
    | .ok disk => (.ok (), disk)

end Disk

end Casefile
