import Casefile.Game.IdSource
import Casefile.Game.Resolver
import Casefile.Game.Toast
import Casefile.Save.Store

namespace Casefile

/-!
A player's chats.

A line to a contact becomes a message of the player's, then whatever it comes to, and then the
contact's answer.  When a solved puzzle announces itself, an unread message appears in the other
contact's chat, and a toast on the screen.
-/

structure ToastTiming where
  delay : UInt64 := 1500
  ttl : UInt64 := 4000
  deriving DecidableEq

/-- Where toasts go: nowhere, or to a queue. -/
inductive Notifier where
  | silent
  | screen (toasts : Toasts)
  deriving DecidableEq

namespace Notifier

def notify (now : Instant) (request : ToastRequest) : Notifier → Notifier
  | .silent => .silent
  | .screen toasts => .screen (toasts.notify now request)

def look (now : Instant) : Notifier → List Toast × Notifier
  | .silent => ([], .silent)
  | .screen toasts =>
    let (shown, toasts) := toasts.look now
    (shown, .screen toasts)

def pending : Notifier → Nat
  | .silent => 0
  | .screen toasts => toasts.pending

def dismiss (id : Nat) : Notifier → Bool × Notifier
  | .silent => (false, .silent)
  | .screen toasts =>
    let (found, toasts) := toasts.dismiss id
    (found, .screen toasts)

end Notifier

structure Session where
  story : Story
  store : Store
  picker : Picker
  notifier : Notifier
  ids : IdSource
  timing : ToastTiming := {}

/-- What a line does: its outcome, the edits to be saved, and the toast to be shown. -/
structure Exchange where
  outcome : Outcome
  edits : List Edit
  request? : Option ToastRequest
  picker : Picker
  ids : IdSource

namespace Session

def compose (id : MessageId) (content : String) (sender : Sender) (now : Instant) : Message :=
  { id, content, sender, sentAt := now }

/-- File a new message in a chat, if the contact can be played. -/
def say (session : Session) (ids : IdSource) (contact : ContactId)
    (message : MessageId → Message) : List Edit × IdSource :=
  if session.story.hasContact contact then
    let (id, ids) := ids.draw
    ([.addMessage contact (message id)], ids)
  else ([], ids)

def toastFor (session : Session) (delivery : Delivery) : ToastRequest where
  text := delivery.message
  contact? := some delivery.contact
  delay := session.timing.delay
  ttl? := some session.timing.ttl

def exchange (session : Session) (now : Instant) (contact : ContactId) (line : String) :
    Exchange :=
  let verdict := session.story.resolve session.picker session.store.state now contact line
  let (asked, ids) := session.say session.ids contact (compose · line .user now)
  let (answered, ids) := session.say ids contact (compose · verdict.outcome.text .contact now)
  match verdict.outcome.delivery? with
  | none =>
    { outcome := verdict.outcome
      edits := asked ++ verdict.edits ++ answered
      request? := none
      picker := verdict.picker
      ids }
  | some delivery =>
    let (announced, ids) := session.say ids delivery.contact
      fun id => (compose id delivery.message .contact now).unread
    { outcome := verdict.outcome
      edits := asked ++ verdict.edits ++ answered ++ announced
      request? := some (session.toastFor delivery)
      picker := verdict.picker
      ids }

def notify (notifier : Notifier) (now : Instant) : Option ToastRequest → Notifier
  | none => notifier
  | some request => notifier.notify now request

def submit (session : Session) (now : Instant) (contact : ContactId) (line : String) :
    Outcome × Session :=
  let done := session.exchange now contact line
  (done.outcome, { session with
    store := session.store.commitAll done.edits
    picker := done.picker
    ids := done.ids
    notifier := notify session.notifier now done.request? })

/-- Open a chat: its messages are read from now on. -/
def openChat (session : Session) (contact : ContactId) : List Message × Session :=
  let store := session.store.commit (.markRead contact)
  (store.state.messages contact, { session with store })

def visibleContacts (session : Session) : List Contact :=
  session.story.visibleContacts session.store.state.turn

def unreadCounts (session : Session) : List (ContactId × Nat) :=
  session.visibleContacts.map fun contact =>
    (contact.id, session.store.state.unreadCount contact.id)

def reset (session : Session) : Session := { session with store := session.store.reset }

def look (session : Session) (now : Instant) : List Toast × Session :=
  let (shown, notifier) := session.notifier.look now
  (shown, { session with notifier })

def dismiss (session : Session) (id : Nat) : Bool × Session :=
  let (found, notifier) := session.notifier.dismiss id
  (found, { session with notifier })

end Session

end Casefile
