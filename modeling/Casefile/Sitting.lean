import Casefile.Chat.Loop
import Casefile.LockScreen
import Casefile.Story.Load

namespace Casefile

/-!
A sitting at the terminal, from the title to the end.

The log file is opened and the settings are loaded; a settings file that cannot be used gives way to
the default settings.  After the title comes the lock screen, and then the chat on the story and the
saved game.  `Sitting.hear` handles one line; `Sitting.run` handles a whole input.
-/

structure Surroundings where
  disk : Disk
  home? : Option Path
  valueOf : String → Option String
  picker : Picker
  ids : IdSource

inductive SittingError where
  | lock (reason : LockError)
  | story (directory : Path) (reason : StoryError)
  | input (reason : IoError)
  deriving DecidableEq

def SittingError.message : SittingError → String
  | .lock reason => reason.message
  | .story directory _ => "failed to load content from " ++ directory.text
  | .input reason => reason.message

def SittingError.cause? : SittingError → Option String
  | .story _ reason => some reason.message
  | .lock _ | .input _ => none

inductive Scene where
  /-- The lock screen, with the number of lines that may still be tried. -/
  | locked (left : Nat)
  | chatting (chat : Chat)
  | over (failure? : Option SittingError)

structure Sitting where
  surroundings : Surroundings
  settings : Settings
  settingsError? : Option SettingsError
  scene : Scene

namespace Surroundings

def logFiles (surroundings : Surroundings) : List Path :=
  let inDirectory (directory : Path) : Path := (directory.join ⟨"logs"⟩).join ⟨"detective.log"⟩
  (surroundings.home?.toList.map Settings.directory ++ [Path.mk ".detective"]).map inDirectory

/-- Open the first file that can be opened, and create the directories on the way to each that is
tried. -/
def openFirst (disk : Disk) : List Path → Disk
  | [] => disk
  | path :: rest =>
    match disk.makeDirs path.parent.route with
    | (.error _, disk) => openFirst disk rest
    | (.ok (), disk) =>
      match disk.openToAppend path with
      | .ok disk => disk
      | .error _ => openFirst disk rest

def openLog (surroundings : Surroundings) : Surroundings :=
  { surroundings with disk := openFirst surroundings.disk surroundings.logFiles }

/-- Where the game is saved: in a file, or in memory where there is no place for one. -/
def vault (surroundings : Surroundings) (settings : Settings) : Vault :=
  match settings.savePath surroundings.valueOf surroundings.home? with
  | some path => .file surroundings.disk path
  | none => .memory {}

end Surroundings

namespace Sitting

/-- The disk as the sitting has left it so far. -/
def disk (sitting : Sitting) : Disk :=
  match sitting.scene with
  | .chatting { session := { store := { vault := .file disk _, .. }, .. }, .. } => disk
  | _ => sitting.surroundings.disk

def conclude (sitting : Sitting) (failure? : Option SittingError) : Sitting :=
  { sitting with
    surroundings := { sitting.surroundings with disk := sitting.disk }
    scene := .over failure? }

def titleLine (settings : Settings) : String :=
  settings.title ++ " v" ++ settings.version ++ "\n"

def hint : String := "/help per i comandi\n"

def session (surroundings : Surroundings) (settings : Settings) (story : Story) : Session where
  story
  store := Store.resume (surroundings.vault settings)
  picker := surroundings.picker
  notifier := .screen { defaultTtl := settings.toastTtl }
  ids := surroundings.ids
  timing := { delay := settings.toastDelay, ttl := settings.toastTtl }

def begin (sitting : Sitting) : Sitting × String :=
  let directory := sitting.settings.storyPath sitting.surroundings.valueOf
  match Story.load sitting.surroundings.disk directory with
  | .error reason => (sitting.conclude (some (.story directory reason)), "")
  | .ok story =>
    let chat := Chat.start (session sitting.surroundings sitting.settings story)
    ({ sitting with scene := .chatting chat }, hint ++ chat.prompt)

def enter (sitting : Sitting) : LockScreen → Sitting × String
  | .asking left => ({ sitting with scene := .locked left }, "")
  | .opened => sitting.begin
  | .shut reason => (sitting.conclude (some (.lock reason)), "")

/-- The sitting with its log and its settings, before it begins. -/
def arrive (surroundings : Surroundings) : Sitting :=
  let surroundings := surroundings.openLog
  let (settings, settingsError?) :=
    match Settings.find surroundings.disk surroundings.home? with
    | .ok settings? => (settings?.getD {}, none)
    | .error reason => ({}, some reason)
  { surroundings, settings, settingsError?, scene := .over none }

def start (surroundings : Surroundings) : Sitting × String :=
  let arrived := arrive surroundings
  let (screen, shown) := LockScreen.start arrived.settings
  let (sitting, more) := arrived.enter screen
  (sitting, titleLine arrived.settings ++ shown ++ more)

/-- Handle a line of the input, which may have no text, and say what is shown. -/
def hear (sitting : Sitting) (now : Instant) (line : Option String) : Sitting × String :=
  match sitting.scene, line with
  | .locked left, line =>
    let (screen, shown) := LockScreen.hear sitting.settings left line
    let (sitting, more) := sitting.enter screen
    (sitting, shown ++ more)
  | .chatting _, none => (sitting.conclude (some (.input .invalidText)), "")
  | .chatting chat, some line =>
    let step := chat.handle now line
    let sitting := { sitting with scene := .chatting step.chat }
    (if step.goesOn then sitting else sitting.conclude none, step.shown)
  | .over _, _ => (sitting, "")

def close (sitting : Sitting) : Sitting :=
  match sitting.scene with
  | .locked left => (sitting.enter (LockScreen.asking left).close).1
  | .chatting _ => sitting.conclude none
  | .over _ => sitting

def goesOn (sitting : Sitting) : Bool :=
  match sitting.scene with
  | .over _ => false
  | .locked _ | .chatting _ => true

/-- Handle lines, each at its time, until the sitting or the input ends. -/
def hearAll (sitting : Sitting) : List (Instant × Option String) → Sitting × String
  | [] => (sitting.close, "")
  | (now, line) :: rest =>
    let (sitting, shown) := sitting.hear now line
    if sitting.goesOn then
      let (sitting, more) := sitting.hearAll rest
      (sitting, shown ++ more)
    else (sitting, shown)

def run (surroundings : Surroundings) (lines : List (Instant × Option String)) :
    Sitting × String :=
  let (sitting, shown) := start surroundings
  if sitting.goesOn then
    let (sitting, more) := sitting.hearAll lines
    (sitting, shown ++ more)
  else (sitting, shown)

def failure? (sitting : Sitting) : Option SittingError :=
  match sitting.scene with
  | .over failure? => failure?
  | .locked _ | .chatting _ => none

def warning? (sitting : Sitting) : Option String :=
  sitting.settingsError?.map fun reason => reason.message ++ "; using defaults"

def exitCode (sitting : Sitting) : UInt32 := if sitting.failure?.isSome then 1 else 0

end Sitting

end Casefile
