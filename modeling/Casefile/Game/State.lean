import Casefile.Game.Message
import Casefile.Game.Progress

namespace Casefile

open Json (choice defaulted ifPresent present record required slots)

/-!
The state of a game: everything that a save file holds.
-/

structure GameState where
  turn : Turn := Turn.first
  chats : Table ContactId (List Message) := ∅
  progress : Table StatusKey Progress := ∅
  deriving DecidableEq

instance : Wire GameState where
  encode state := record [
    ("currentGlobalTurn", some (Wire.encode state.turn)),
    ("chatHistories", some (Wire.encode state.chats)),
    ("puzzleStatus", some (Wire.encode state.progress))]
  decode value := do
    let [turn, chats, progress] ←
      slots ["currentGlobalTurn", "chatHistories", "puzzleStatus"] value | none
    return {
      turn := ← defaulted Turn.first turn
      chats := ← defaulted ∅ chats
      progress := ← defaulted ∅ progress }

namespace GameState

def progress? (state : GameState) (key : StatusKey) : Option Progress := state.progress.find? key

/-- The record of a puzzle; one that has none starts with an empty one. -/
def progressOf (state : GameState) (key : StatusKey) : Progress := (state.progress? key).getD {}

def isLocked (state : GameState) (key : StatusKey) (now : Instant) : Bool :=
  (state.progressOf key).isLockedAt now

def isPreQuestionShown (state : GameState) (key : StatusKey) : Bool :=
  (state.progressOf key).preQuestionShown

def lockedUntil? (state : GameState) (key : StatusKey) : Option Instant :=
  (state.progressOf key).lockedUntil?

def phase (state : GameState) (key : StatusKey) (hasPreQuestion : Bool) (now : Instant) : Phase :=
  Phase.of (state.progress? key) hasPreQuestion now

def messages (state : GameState) (contact : ContactId) : List Message :=
  (state.chats.find? contact).getD []

def unreadCount (state : GameState) (contact : ContactId) : Nat :=
  (state.messages contact).countP Message.awaitsReading

end GameState

end Casefile
