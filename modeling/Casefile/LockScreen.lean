import Casefile.Settings.Basic

namespace Casefile

/-!
The lock screen.

Where the settings have a code, it has to be typed before the game starts.  Three lines may be
tried; the lines after the one that opens the screen are left for the game.
-/

inductive LockError where
  | wrongCode
  | invalidText
  deriving DecidableEq

def LockError.message : LockError → String
  | .wrongCode => "wrong lock code"
  | .invalidText => IoError.invalidText.message

/-- A lock screen that waits for a line, or has stopped waiting. -/
inductive LockScreen where
  | asking (left : Nat)
  | opened
  | shut (reason : LockError)
  deriving DecidableEq

namespace LockScreen

def attempts : Nat := 3

def prompt : String := "Codice: "

def wrongText : String := "Codice errato.\n"

def start (settings : Settings) : LockScreen × String :=
  match settings.lockCode with
  | none => (.opened, "")
  | some _ => (.asking attempts, prompt)

def hear (settings : Settings) (left : Nat) : Option String → LockScreen × String
  | none => (.shut .invalidText, "")
  | some line =>
    if settings.unlocks line then (.opened, "")
    else if left ≤ 1 then (.shut .wrongCode, wrongText)
    else (.asking (left - 1), wrongText ++ prompt)

def close : LockScreen → LockScreen
  | .asking _ => .shut .wrongCode
  | screen => screen

/-- How a lock screen ended, what it showed, and the lines that it left. -/
structure Passage where
  ending : LockScreen
  shown : String
  rest : List (Option String)
  deriving DecidableEq

def run (settings : Settings) : LockScreen → List (Option String) → Passage
  | .asking left, [] => { ending := (asking left).close, shown := "", rest := [] }
  | .asking left, line :: rest =>
    let (next, shown) := hear settings left line
    let more := run settings next rest
    { more with shown := shown ++ more.shown }
  | ended, rest => { ending := ended, shown := "", rest }

def unlock (settings : Settings) (lines : List (Option String)) : Passage :=
  let (screen, shown) := start settings
  let passage := run settings screen lines
  { passage with shown := shown ++ passage.shown }

end LockScreen

end Casefile
