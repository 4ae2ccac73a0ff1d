import Casefile.Disk.Change
import Casefile.Sitting
import Casefile.Text.Line
import Std.Time.DateTime.Timestamp

/-!
The program at a terminal.

The files that a sitting may ask for are copied into a disk; the sitting is played on it line by
line, and after each line its changes are made to the files.
-/

namespace Casefile.Terminal

def locationText (location : List String) : String := "/" ++ String.intercalate "/" location

def copyDepth : Nat := 64

/-- What there is at a location.  Below the last directory that is looked into, files are empty and
directories too. -/
def look (location : List String) : Nat → IO (Option Node)
  | 0 => do
    let path := (← IO.currentDir) / locationText location
    if ← path.isDir then return some (.dir [])
    else return if ← path.pathExists then some (.file .empty) else none
  | depth + 1 => do
    let path := (← IO.currentDir) / locationText location
    if ← path.isDir then
      let entries ← (← path.readDir).toList.filterMapM fun entry => do
        return (← look (location ++ [entry.fileName]) depth).map fun node => (entry.fileName, node)
      return some (.dir (entries.foldl (fun sorted entry => Table.put entry.1 entry.2 sorted) []))
    else if ← path.pathExists then return some (.file (← IO.FS.readBinFile path))
    else return none

def copyLocation (disk : Disk) (location : List String) (depth : Nat) : IO Disk := do
  let ancestors := (List.range location.length).map location.take
  let above ← ancestors.foldlM (fun (disk : Disk) ancestor => do
    if (disk.root.get? ancestor).isSome then return disk
    match ← look ancestor 0 with
    | some node => return { disk with root := node.graft ancestor disk.root }
    | none => return disk) disk
  match ← look location depth with
  | some node => return { above with root := node.graft location above.root }
  | none => return above

def copyPath (depth : Nat) (disk : Disk) (path : Path) : IO Disk := do
  try copyLocation disk (path.route.location disk.cwd) depth
  catch _ => return disk

def storyFiles (disk : Disk) (directory : Path) : List Path :=
  match Story.readFile disk (Story.registryPath directory) with
  | .error _ => []
  | .ok contacts => (contacts : List Contact).map (Story.bundlePath directory)

/-- What a sitting finds here.  The names beside the saved game are copied before any file, because
a directory of which only the names are copied has empty files in it.

The random numbers are drawn before the sitting and not at each choice: a picker is a sequence of
choices, and after the last of the thousand it goes back to the first. -/
def surroundings : IO Surroundings := do
  let home? := ((← IO.getEnv "HOME").filter (!·.isEmpty)).map Path.mk
  let cwd := (Path.mk (toString (← IO.currentDir))).route.location []
  let start ← copyPath 1 { root := .dir [], cwd } ⟨"."⟩
  let early ← (home?.toList.map Settings.file).foldlM (copyPath copyDepth) start
  let settings := match Settings.find early home? with
    | .ok settings? => settings?.getD {}
    | .error _ => {}
  let values ← settings.variableNames.mapM fun name => do return (name, ← IO.getEnv name)
  let valueOf (name : String) : Option String := (values.lookup name).join
  let directory := settings.storyPath valueOf
  let early ← copyPath copyDepth early (Story.registryPath directory)
  let saved := (settings.savePath valueOf home?).toList
  let choices ← (List.range 1000).mapM fun _ => IO.rand 0 0xFFFFFFFF
  let seed := (← IO.getRandomBytes 16).toList.foldl (fun n byte => n * 256 + byte.toNat) 0
  let found : Surroundings := {
    disk := ← (saved.map Path.parent).foldlM (copyPath 1) start
    home?
    valueOf
    picker := { sequence := choices }
    ids := IdSource.ofSeed seed }
  let files := found.logFiles ++ home?.toList.map Settings.file ++
    Story.registryPath directory :: storyFiles early directory ++ saved ++ saved.map Path.backup
  return { found with disk := ← files.foldlM (copyPath copyDepth) found.disk }

/-- Make a change to the files; a file is written beside its place and then moved there. -/
def make : Change → IO Unit
  | .makeDir location => IO.FS.createDirAll (locationText location)
  | .write location bytes => do
    let fresh := locationText location ++ ".new"
    IO.FS.writeBinFile fresh bytes
    IO.FS.rename fresh (locationText location)
  | .remove location => do
    let path := (← IO.currentDir) / locationText location
    if ← path.isDir then IO.FS.removeDirAll path else IO.FS.removeFile path

def follow (before after : Disk) : IO Unit := (after.changesSince before).forM make

def now : IO Instant := do
  return ⟨Int64.ofIntClamp (← Std.Time.Timestamp.now).toMillisecondsSinceUnixEpoch.val⟩

def display (text : String) : IO Unit := do
  let output ← IO.getStdout
  output.putStr text
  output.flush

/-- Handle lines of which some bytes have been read, and return the sitting when it ends. -/
partial def play (input : IO.FS.Stream) (held : List UInt8) (sitting : Sitting) : IO Sitting := do
  if !sitting.goesOn then return sitting
  match Text.cutLines held with
  | [] => more
  | line :: rest =>
    if line.getLast? = some 10 then hear line rest.flatten else more
where
  hear (line rest : List UInt8) : IO Sitting := do
    let (after, shown) := sitting.hear (← now) (Text.lineText line)
    follow sitting.disk after.disk
    display shown
    play input rest after
  more : IO Sitting := do
    let bytes ← input.read 4096
    if !bytes.isEmpty then play input (held ++ bytes.toList) sitting
    else if held.isEmpty then return sitting.close
    else hear held []

def complaint (reason : SittingError) : String :=
  let cause := match reason.cause? with
    | some cause => "\n\nCaused by:\n    " ++ cause
    | none => ""
  "Error: " ++ reason.message ++ cause

end Casefile.Terminal

open Casefile Terminal in
def main : IO UInt32 := do
  let found ← surroundings
  let (sitting, shown) := Sitting.start found
  follow found.disk sitting.disk
  if let some warning := sitting.warning? then IO.eprintln warning
  display shown
  let ended ← play (← IO.getStdin) [] sitting
  if let some reason := ended.failure? then IO.eprintln (complaint reason)
  return ended.exitCode
