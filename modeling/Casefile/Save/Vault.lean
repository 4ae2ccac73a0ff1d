import Casefile.Disk.Replacement
import Casefile.Game.State
import Casefile.Json.Printer

namespace Casefile

/-!
Where a game is saved: a slot in memory, or a file.

A slot keeps compact text and can be told to fail.  A file keeps indented text; it is replaced as a
whole, and a backup that an interrupted replacement left is brought back when the file is loaded.
-/

structure Slot where
  saved? : Option String := none
  /-- The number of saves that succeeded, counted without end. -/
  saves : Nat := 0
  failing : Bool := false
  deriving DecidableEq

inductive Vault where
  | memory (slot : Slot)
  | file (disk : Disk) (path : Path)

inductive VaultError where
  | io (path : Path) (reason : IoError)
  | corrupt (path : Path)
  | corruptSlot
  | unavailable
  deriving DecidableEq

namespace Slot

def holding (state : GameState) : Slot := { saved? := some (Wire.encode state).compact }

def state? (slot : Slot) : Option GameState := slot.saved?.bind Wire.read

def load (slot : Slot) : Except VaultError (Option GameState) :=
  if slot.failing then .error .unavailable
  else match slot.saved? with
    | none => .ok none
    | some text =>
      match Wire.read text with
      | some state => .ok (some state)
      | none => .error .corruptSlot

def save (slot : Slot) (state : GameState) : Except VaultError Unit × Slot :=
  if slot.failing then (.error .unavailable, slot)
  else (.ok (), { slot with saved? := some (Wire.encode state).compact, saves := slot.saves + 1 })

def clear (slot : Slot) : Except VaultError Unit × Slot :=
  if slot.failing then (.error .unavailable, slot) else (.ok (), { slot with saved? := none })

end Slot

namespace Disk

/-- Load a saved game; a file that does not exist holds none. -/
def loadGame (disk : Disk) (path : Path) : Except VaultError (Option GameState) × Disk :=
  let disk := (disk.recover path).2
  match disk.readText path with
  | .error .notFound => (.ok none, disk)
  | .error reason => (.error (.io path reason), disk)
  | .ok text =>
    match Wire.read text with
    | some state => (.ok (some state), disk)
    | none => (.error (.corrupt path), disk)

def saveGame (disk : Disk) (path : Path) (state : GameState) : Except VaultError Unit × Disk :=
  match disk.replaceFile path (Wire.encode state).pretty.toUTF8 with
  | (.ok (), disk) => (.ok (), disk)
  | (.error reason, disk) => (.error (.io path reason), disk)

def clearGame (disk : Disk) (path : Path) : Except VaultError Unit × Disk :=
  match disk.removeWithBackup path with
  | (.ok (), disk) => (.ok (), disk)
  | (.error reason, disk) => (.error (.io path reason), disk)

end Disk

namespace Vault

def load : Vault → Except VaultError (Option GameState) × Vault
  | .memory slot => (slot.load, .memory slot)
  | .file disk path =>
    let (loaded, disk) := disk.loadGame path
    (loaded, .file disk path)

def save (state : GameState) : Vault → Except VaultError Unit × Vault
  | .memory slot =>
    let (saved, slot) := slot.save state
    (saved, .memory slot)
  | .file disk path =>
    let (saved, disk) := disk.saveGame path state
    (saved, .file disk path)

def clear : Vault → Except VaultError Unit × Vault
  | .memory slot =>
    let (cleared, slot) := slot.clear
    (cleared, .memory slot)
  | .file disk path =>
    let (cleared, disk) := disk.clearGame path
    (cleared, .file disk path)

/-- Tell a slot in memory to fail or to work; a file does as it can. -/
def setFailing (failing : Bool) : Vault → Vault
  | .memory slot => .memory { slot with failing }
  | .file disk path => .file disk path

end Vault

end Casefile
