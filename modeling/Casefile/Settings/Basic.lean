import Casefile.Disk.Basic
import Casefile.Settings.Template
import Casefile.Text.Blank
import Casefile.Toml.Reader

namespace Casefile

/-!
The player's settings.

They are read from `config.toml` in the directory `.detective` of the home directory.  Every setting
may be left out, and keys that mean nothing are passed over.  A section is a table, or an array of
the values of all its settings in order.
-/

structure Settings where
  title? : Option String := none
  version? : Option String := none
  lockCode? : Option String := none
  savePath? : Option String := none
  storyPath? : Option String := none
  toastTtl? : Option UInt64 := none
  toastDelay? : Option UInt64 := none
  deriving DecidableEq

inductive SettingsError where
  | read (path : Path) (reason : IoError)
  | parse (path : Path)
  deriving DecidableEq

def SettingsError.message : SettingsError → String
  | .read path reason => "failed to read config at " ++ path.text ++ ": " ++ reason.message
  | .parse path => "failed to parse config at " ++ path.text

namespace Settings

/-- What a section says about each of some names.  A date stands for a section that says nothing. -/
def slots (names : List String) : Toml → Option (List (Option Toml))
  | .table _ entries =>
    if Toml.readableEntries (entries.filter fun entry => !names.contains entry.1) then
      some (names.map fun name => Toml.find? name entries)
    else none
  | .array _ items =>
    if names.length ≤ items.length then some ((items.take names.length).map some) else none
  | .moment => some (names.map fun _ => none)
  | _ => none

def text? : Option Toml → Option (Option String)
  | none => some none
  | some (.text value) => some (some value)
  | some _ => none

def millis? : Option Toml → Option (Option UInt64)
  | none => some none
  | some (.int value) =>
    if 0 ≤ value ∧ value < UInt64.size then some (some (UInt64.ofNat value.toNat)) else none
  | some _ => none

def withApp (settings : Settings) : Option Toml → Option Settings
  | none => some settings
  | some part => do
    match ← slots ["title", "version", "lock_code"] part with
    | [title, version, lockCode] =>
      return { settings with
        title? := ← text? title
        version? := ← text? version
        lockCode? := ← text? lockCode }
    | _ => none

def withGame (settings : Settings) : Option Toml → Option Settings
  | none => some settings
  | some part => do
    match ← slots ["save_path", "content_dir", "toast_ttl_ms", "notification_delay_ms"] part with
    | [savePath, storyPath, toastTtl, toastDelay] =>
      return { settings with
        savePath? := ← text? savePath
        storyPath? := ← text? storyPath
        toastTtl? := ← millis? toastTtl
        toastDelay? := ← millis? toastDelay }
    | _ => none

def ofToml (value : Toml) : Option Settings := do
  match ← slots ["app", "game"] value with
  | [app, game] => (← withApp {} app).withGame game
  | _ => none

def read (text : String) : Option Settings := (Toml.read text).bind ofToml

def load (disk : Disk) (path : Path) : Except SettingsError Settings :=
  match disk.readText path with
  | .error reason => .error (.read path reason)
  | .ok text =>
    match read text with
    | some settings => .ok settings
    | none => .error (.parse path)

def directory (home : Path) : Path := home.join ⟨".detective"⟩

def file (home : Path) : Path := (directory home).join ⟨"config.toml"⟩

def find (disk : Disk) (home? : Option Path) : Except SettingsError (Option Settings) :=
  match home? with
  | none => .ok none
  | some home =>
    if disk.pathExists (file home) then (load disk (file home)).map some else .ok none

def title (settings : Settings) : String := settings.title?.getD "Progetto Detective"

def version (settings : Settings) : String := settings.version?.getD "1.0.0"

/-- The code of the lock screen; an empty one locks nothing. -/
def lockCode (settings : Settings) : Option String := settings.lockCode?.filter (!·.isEmpty)

def unlocks (settings : Settings) (line : String) : Bool :=
  match settings.lockCode with
  | none => true
  | some code => code = Text.trim line

/-- Where the game is saved, if there is a place for it. -/
def savePath (settings : Settings) (valueOf : String → Option String) (home? : Option Path) :
    Option Path :=
  match settings.savePath? with
  | some template => some ⟨Template.expand valueOf template⟩
  | none => home?.map fun home => (directory home).join ⟨"save.json"⟩

def storyPath (settings : Settings) (valueOf : String → Option String) : Path :=
  match settings.storyPath? with
  | some template => ⟨Template.expand valueOf template⟩
  | none => ⟨"content"⟩

def toastTtl (settings : Settings) : UInt64 := settings.toastTtl?.getD 4000

def toastDelay (settings : Settings) : UInt64 := settings.toastDelay?.getD 1500

def variableNames (settings : Settings) : List String :=
  (settings.savePath?.toList ++ settings.storyPath?.toList).flatMap Template.names

end Settings

end Casefile
