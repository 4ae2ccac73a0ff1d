import Casefile.Game.Activity

namespace Casefile

/-!
A line that is interrupted.

A line saves the game after every edit that changes something.  When the program is killed before,
between or after these saves, it goes on with what was saved last.
-/

/-- The game that goes on when the vault is opened again. -/
def Store.saved (store : Store) : GameState := (resume store.vault).state

/-- The store before some edits, and after each of their saves. -/
def Store.stops (store : Store) : List Edit → List Store
  | [] => [store]
  | edit :: rest =>
    let later := (store.commit edit).stops rest
    if edit.applies store.state then store :: later else later

namespace Session

/-- The edits that a line makes, in the order in which they are saved. -/
def edits (session : Session) (line : Submission) : List Edit :=
  (session.exchange line.sentAt line.contact line.text).edits

/-- The games that may go on when a line is interrupted. -/
def savedStates (session : Session) (line : Submission) : List GameState :=
  (session.store.stops (session.edits line)).map Store.saved

end Session

/-- A line is for the puzzle whose record is kept under a key, if there is such a puzzle. -/
def Submission.Addresses (line : Submission) (key : StatusKey) : Prop :=
  ∃ command, Command.parse line.text = some command ∧ key = .of line.contact command.turn

/-- What was said in a chat since some state. -/
def GameState.saidSince (state before : GameState) (chat : ContactId) : List Message :=
  (state.messages chat).drop (before.messages chat).length

/-- The number of wrong answers that it takes to lock a puzzle. -/
def Puzzle.triesLeft (puzzle : Puzzle) (progress : Progress) : Nat :=
  max 1 (puzzle.attemptLimit.toNat - progress.failedAttempts.toNat)

end Casefile
