import Casefile.Game.Conversation
import Casefile.Game.Play

namespace Casefile

/-!
The course of a game that is not started over.

A line is sent in the chats, or it is only resolved and leaves no trace in them.  Both go on with
the same store and the same picker.
-/

inductive Call where
  | send (line : Submission)
  | resolve (line : Submission)
  deriving DecidableEq

def Call.line : Call → Submission
  | .send line | .resolve line => line

/-- The puzzle that a line is for, if there is one. -/
def Story.addressed? (story : Story) (line : Submission) : Option Puzzle :=
  (Command.parse line.text).bind fun command => story.puzzle? line.contact command.turn

namespace Session

/-- The play that is going on in a session, at some instant. -/
def play (session : Session) (now : Instant) : Play where
  story := session.story
  store := session.store
  picker := session.picker
  now

def resolve (session : Session) (line : Submission) : Outcome × Session :=
  let (outcome, play) := (session.play line.sentAt).resolve line.contact line.text
  (outcome, { session with store := play.store, picker := play.picker })

def call (session : Session) : Call → Outcome × Session
  | .send line => session.send line
  | .resolve line => session.resolve line

def callAll (session : Session) (calls : List Call) : Session :=
  calls.foldl (fun session call => (session.call call).2) session

end Session

end Casefile
