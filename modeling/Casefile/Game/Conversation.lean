import Casefile.Game.Session

namespace Casefile

/-!
Lines that are sent one after the other, and what they leave in the chats.
-/

structure Submission where
  sentAt : Instant
  contact : ContactId
  text : String
  deriving DecidableEq

/-- What an outcome delivers to a chat: nothing, unless the contact can be played. -/
def Story.delivers (story : Story) (outcome : Outcome) (chat : ContactId) : Option Delivery :=
  outcome.delivery?.filter fun delivery => delivery.contact = chat && story.hasContact chat

namespace Session

def send (session : Session) (line : Submission) : Outcome × Session :=
  session.submit line.sentAt line.contact line.text

def sendAll (session : Session) (lines : List Submission) : Session :=
  lines.foldl (fun session line => (session.send line).2) session

/-- What is delivered to a chat while lines are sent. -/
def deliveries (session : Session) (chat : ContactId) : List Submission → List Delivery
  | [] => []
  | line :: rest =>
    let (outcome, next) := session.send line
    (session.story.delivers outcome chat).toList ++ next.deliveries chat rest

end Session

end Casefile
