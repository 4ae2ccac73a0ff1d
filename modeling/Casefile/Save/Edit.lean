import Casefile.Game.State

namespace Casefile

/-!
Changes of the game's state.

Everything that play does to the state is a sequence of edits, and each edit that changes something
is saved.  `Edit.applies` says when there is something to change; `Edit.apply` is the change.
-/

/-- One change that is saved on its own. -/
inductive Edit where
  | touch (key : StatusKey)
  | countFailure (key : StatusKey)
  | clearFailures (key : StatusKey)
  | lock (key : StatusKey) (deadline : Instant)
  | setShown (key : StatusKey) (shown : Bool)
  | advance (turn : Turn)
  | addMessage (contact : ContactId) (message : Message)
  | markRead (contact : ContactId)
  deriving DecidableEq

namespace GameState

/-- Change the record of a puzzle, which starts empty if there is none. -/
def revise (state : GameState) (key : StatusKey) (change : Progress → Progress) : GameState :=
  { state with progress := state.progress.insert key (change (state.progressOf key)) }

def reviseChat (state : GameState) (contact : ContactId)
    (change : List Message → List Message) : GameState :=
  { state with chats := state.chats.insert contact (change (state.messages contact)) }

end GameState

namespace Edit

def applies (state : GameState) : Edit → Bool
  | .touch key => (state.progress? key).isNone
  | .advance turn => state.turn < turn
  | .markRead contact => state.unreadCount contact ≠ 0
  | .countFailure _ | .clearFailures _ | .lock _ _ | .setShown _ _ | .addMessage _ _ => true

def apply (state : GameState) : Edit → GameState
  | .touch key => state.revise key id
  | .countFailure key => state.revise key Progress.failedOnce
  | .clearFailures key => state.revise key Progress.cleared
  | .lock key deadline => state.revise key (Progress.lockedUntil · deadline)
  | .setShown key shown => state.revise key (Progress.withShown · shown)
  | .advance turn => { state with turn }
  | .addMessage contact message => state.reviseChat contact (· ++ [message.filed])
  | .markRead contact => state.reviseChat contact (·.map Message.seen)

/-- The state after an edit that may have nothing to change. -/
def perform (state : GameState) (edit : Edit) : GameState :=
  if edit.applies state then edit.apply state else state

end Edit

def GameState.performAll (state : GameState) (edits : List Edit) : GameState :=
  edits.foldl Edit.perform state

end Casefile
