import Casefile.Game.Conversation
import Casefile.Save.Ledger

namespace Casefile

/-!
What is done with a session.

Lines are sent, chats are opened, the screen is looked at, and the game is started over.  When the
program is left and started again, a new session goes on from what was saved.
-/

inductive Activity where
  | send (line : Submission)
  | openChat (chat : ContactId)
  | look (now : Instant)
  | reset
  | reopen (picker : Picker) (notifier : Notifier) (ids : IdSource)

/-- Whether an activity leaves nothing unread in a chat: it opens the chat, or it takes it away. -/
def Activity.clears (chat : ContactId) : Activity → Bool
  | .openChat opened => opened = chat
  | .reset => true
  | .send _ | .look _ | .reopen _ _ _ => false

namespace Session

def reopen (session : Session) (picker : Picker) (notifier : Notifier) (ids : IdSource) : Session :=
  { session with store := .resume session.store.vault, picker, notifier, ids }

def act (session : Session) : Activity → Session
  | .send line => (session.send line).2
  | .openChat chat => (session.openChat chat).2
  | .look now => (session.look now).2
  | .reset => session.reset
  | .reopen picker notifier ids => session.reopen picker notifier ids

def actAll (session : Session) (activities : List Activity) : Session :=
  activities.foldl act session

/-- The activities, each with the session in which it is done. -/
def history (session : Session) : List Activity → List (Session × Activity)
  | [] => []
  | activity :: rest => (session, activity) :: (session.act activity).history rest

/-- The writes that an activity attempts. -/
def attempts (session : Session) : Activity → List Attempt
  | .send line =>
    session.store.attempts (session.exchange line.sentAt line.contact line.text).edits
  | .openChat chat => session.store.requestAttempts (.markRead chat)
  | .reset => session.store.requestAttempts .reset
  | .look _ | .reopen _ _ _ => []

def ledger (session : Session) : List Activity → List Attempt
  | [] => []
  | activity :: rest => session.attempts activity ++ (session.act activity).ledger rest

def delivered? (session : Session) (chat : ContactId) : Activity → Option Delivery
  | .send line => session.story.delivers (session.send line).1 chat
  | .openChat _ | .look _ | .reset | .reopen _ _ _ => none

/-- What was delivered to a chat since it was last opened or the game was started over, the latest
first. -/
def deliveredSince (session : Session) (chat : ContactId) (activities : List Activity) :
    List Delivery :=
  ((session.history activities).reverse.takeWhile fun entry => !entry.2.clears chat).filterMap
    fun entry => entry.1.delivered? chat entry.2

end Session

end Casefile
