import Casefile.Instant
import Casefile.Naming

namespace Casefile

open Json (choice defaulted ifPresent present record required slots)

/-!
Chat messages.
-/

inductive Sender where
  | user
  | contact
  deriving DecidableEq

inductive MediaKind where
  | image
  | video
  | pdf
  deriving DecidableEq

structure Media where
  kind : MediaKind
  source : String
  alt? : Option String := none
  deriving DecidableEq

structure Message where
  id : MessageId
  content : String
  sender : Sender
  sentAt : Instant
  media? : Option Media := none
  read? : Option Bool := none
  deriving DecidableEq

namespace Message

def withMedia (message : Message) (media : Media) : Message := { message with media? := some media }

def unread (message : Message) : Message := { message with read? := some false }

/-- Whether the message was read; one that does not say was. -/
def isRead (message : Message) : Bool := message.read?.getD true

def awaitsReading (message : Message) : Bool := message.sender = .contact && !message.isRead

/-- The message as it is filed: the player's own messages are always read. -/
def filed (message : Message) : Message :=
  { message with read? := some (message.sender = .user || message.isRead) }

def seen (message : Message) : Message :=
  if message.awaitsReading then { message with read? := some true } else message

end Message

def Sender.names : List (String × Sender) := [("user", .user), ("contact", .contact)]

def MediaKind.names : List (String × MediaKind) :=
  [("image", .image), ("video", .video), ("pdf", .pdf)]

instance : Wire Sender where
  encode
    | .user => .string "user"
    | .contact => .string "contact"
  decode := choice Sender.names

instance : Wire MediaKind where
  encode
    | .image => .string "image"
    | .video => .string "video"
    | .pdf => .string "pdf"
  decode := choice MediaKind.names

instance : Wire Media where
  encode media := record [
    ("type", some (Wire.encode media.kind)),
    ("src", some (Wire.encode media.source)),
    ("alt", present media.alt?)]
  decode value := do
    let [kind, source, alt] ← slots ["type", "src", "alt"] value | none
    return {
      kind := ← required kind
      source := ← required source
      alt? := ← ifPresent alt }

instance : Wire Message where
  encode message := record [
    ("id", some (Wire.encode message.id)),
    ("content", some (Wire.encode message.content)),
    ("sender", some (Wire.encode message.sender)),
    ("timestamp", some (Wire.encode message.sentAt)),
    ("media", present message.media?),
    ("isRead", present message.read?)]
  decode value := do
    let [id, content, sender, sentAt, media, isRead] ←
      slots ["id", "content", "sender", "timestamp", "media", "isRead"] value | none
    return {
      id := ← required id
      content := ← required content
      sender := ← required sender
      sentAt := ← required sentAt
      media? := ← ifPresent media
      read? := ← ifPresent isRead }

end Casefile
