import Casefile.Proofs.Wire.Saved
import Casefile.Puzzle.Wire
import Casefile.Story.Contact

namespace Casefile

open Json (defaulted_encode ifPresent_present present required_encode writableField_encode
  writableField_present)

/-!
Authored content comes back from its JSON form, and with it every form that a game reads.
-/

instance : FaithfulWire Notice :=
  .ofRecord ["showNotification", "notificationContact", "notificationMessage"]
    (fun notice =>
      [some (Wire.encode notice.enabled), present notice.contact?, present notice.message?])
    (by simp) (fun _ => rfl) (fun _ => rfl)
    (by simp [writableField_encode, writableField_present])
    (by
      intro notice form fields
      simp [Wire.decode, fields, defaulted_encode, ifPresent_present])

theorem Reply.decode_fields {form : Json} {reply : Reply}
    {text nextTurn mediaId evidence messageId notice : Option Json}
    (fields : Json.slots
      ["text", "nextTurn", "mediaId", "evidenceText", "messageId", "notification"] form =
        some [text, nextTurn, mediaId, evidence, messageId, notice])
    (said : Json.defaulted "" text = some reply.text)
    (leads : Json.ifPresent nextTurn = some reply.nextTurn?)
    (shown : Json.ifPresent mediaId = some reply.mediaId?)
    (found : Json.ifPresent evidence = some reply.evidence?)
    (named : Json.ifPresent messageId = some reply.messageId?)
    (noticed : Json.ifPresent notice = some reply.notice?) :
    Wire.decode form = some reply := by
  simp [Wire.decode, fields, said, leads, shown, found, named, noticed]

instance : FaithfulWire Reply :=
  .ofRecord ["text", "nextTurn", "mediaId", "evidenceText", "messageId", "notification"]
    (fun reply =>
      [some (Wire.encode reply.text), present reply.nextTurn?, present reply.mediaId?,
        present reply.evidence?, present reply.messageId?, present reply.notice?])
    (by simp) (fun _ => rfl) (fun _ => rfl)
    (by simp [writableField_encode, writableField_present])
    (fun _ _ fields =>
      Reply.decode_fields fields (defaulted_encode _ _) (ifPresent_present _)
        (ifPresent_present _) (ifPresent_present _) (ifPresent_present _) (ifPresent_present _))

instance : FaithfulWire Solution :=
  .ofRecord ["keywords", "response"]
    (fun solution =>
      [some (Wire.encode solution.keywords), some (Wire.encode solution.reply)])
    (by simp) (fun _ => rfl) (fun _ => rfl)
    (by simp [writableField_encode])
    (by
      intro solution form fields
      simp [Wire.decode, fields, defaulted_encode])

instance : FaithfulWire Hint :=
  .ofRecord ["keywords", "response"]
    (fun hint =>
      [some (Wire.encode hint.keywords), some (Wire.encode hint.response)])
    (by simp) (fun _ => rfl) (fun _ => rfl)
    (by simp [writableField_encode])
    (by
      intro hint form fields
      simp [Wire.decode, fields, defaulted_encode])

theorem Puzzle.decode_fields {form : Json} {puzzle : Puzzle}
    {turn preQuestion solution hints fallbacks penaltyResponses maxAttempts penaltySeconds
      notice : Option Json}
    (fields : Json.slots ["turnId", "preQuestion", "solution", "hints", "fallbacks",
      "penaltyResponses", "maxAttempts", "penaltySeconds", "notification"] form =
        some [turn, preQuestion, solution, hints, fallbacks, penaltyResponses, maxAttempts,
          penaltySeconds, notice])
    (placed : Json.required turn = some puzzle.turn)
    (asked : Json.ifPresent preQuestion = some puzzle.preQuestion?)
    (solved : Json.defaulted {} solution = some puzzle.solution)
    (hinted : Json.defaulted [] hints = some puzzle.hints)
    (missed : Json.defaulted [] fallbacks = some puzzle.fallbacks)
    (barred : Json.defaulted [] penaltyResponses = some puzzle.penaltyResponses)
    (limited : Json.defaulted defaultAttempts maxAttempts = some puzzle.maxAttempts)
    (punished : Json.defaulted defaultPenalty penaltySeconds = some puzzle.penaltySeconds)
    (noticed : Json.ifPresent notice = some puzzle.notice?) :
    Wire.decode form = some puzzle := by
  simp [Wire.decode, fields, placed, asked, solved, hinted, missed, barred, limited, punished,
    noticed]

instance : FaithfulWire Puzzle :=
  .ofRecord ["turnId", "preQuestion", "solution", "hints", "fallbacks", "penaltyResponses",
      "maxAttempts", "penaltySeconds", "notification"]
    (fun puzzle =>
      [some (Wire.encode puzzle.turn), present puzzle.preQuestion?,
        some (Wire.encode puzzle.solution), some (Wire.encode puzzle.hints),
        some (Wire.encode puzzle.fallbacks), some (Wire.encode puzzle.penaltyResponses),
        some (Wire.encode puzzle.maxAttempts), some (Wire.encode puzzle.penaltySeconds),
        present puzzle.notice?])
    (by simp) (fun _ => rfl) (fun _ => rfl)
    (by simp [writableField_encode, writableField_present])
    (fun _ _ fields =>
      Puzzle.decode_fields fields (required_encode _) (ifPresent_present _) (defaulted_encode _ _)
        (defaulted_encode _ _) (defaulted_encode _ _) (defaulted_encode _ _)
        (defaulted_encode _ _) (defaulted_encode _ _) (ifPresent_present _))

instance : FaithfulWire Bundle :=
  .ofRecord ["puzzles"]
    (fun bundle =>
      [some (Wire.encode bundle.puzzles)])
    (by simp) (fun _ => rfl) (fun _ => rfl)
    (by simp [writableField_encode])
    (by
      intro bundle form fields
      simp [Wire.decode, fields, defaulted_encode])

theorem Contact.decode_fields {form : Json} {contact : Contact}
    {id file name avatar description visibleAt : Option Json}
    (fields : Json.slots ["id", "file", "name", "avatar", "description", "visibleAtTurn"] form =
      some [id, file, name, avatar, description, visibleAt])
    (identified : Json.required id = some contact.id)
    (filed : Json.required file = some contact.file)
    (named : Json.defaulted "" name = some contact.name)
    (pictured : Json.defaulted "" avatar = some contact.avatar)
    (described : Json.defaulted "" description = some contact.description)
    (appears : Json.defaulted Turn.first visibleAt = some contact.visibleAt) :
    Wire.decode form = some contact := by
  simp [Wire.decode, fields, identified, filed, named, pictured, described, appears]

instance : FaithfulWire Contact :=
  .ofRecord ["id", "file", "name", "avatar", "description", "visibleAtTurn"]
    (fun contact =>
      [some (Wire.encode contact.id), some (Wire.encode contact.file),
        some (Wire.encode contact.name), some (Wire.encode contact.avatar),
        some (Wire.encode contact.description), some (Wire.encode contact.visibleAt)])
    (by simp) (fun _ => rfl) (fun _ => rfl)
    (by simp [writableField_encode])
    (fun _ _ fields =>
      Contact.decode_fields fields (required_encode _) (required_encode _) (defaulted_encode _ _)
        (defaulted_encode _ _) (defaulted_encode _ _) (defaulted_encode _ _))

namespace Wire

/-- Every value of a type is what its compact text reads as. -/
def ReadsBack (α : Type) [Wire α] : Prop :=
  ∀ value : α, Wire.read (Wire.encode value).compact = some value

/-- The wire format loses nothing.  Whatever is saved or authored is read back from its compact
text, and a saved game from its indented text too. -/
theorem written_is_read :
    (ReadsBack GameState ∧ ReadsBack Progress ∧ ReadsBack Message ∧ ReadsBack Media) ∧
    (ReadsBack Bundle ∧ ReadsBack Puzzle ∧ ReadsBack Solution ∧ ReadsBack Reply ∧
      ReadsBack Hint ∧ ReadsBack Notice ∧ ReadsBack Contact) ∧
    ∀ state : GameState, Wire.read (Wire.encode state).pretty = some state :=
  ⟨⟨read_compact, read_compact, read_compact, read_compact⟩,
    ⟨read_compact, read_compact, read_compact, read_compact, read_compact, read_compact,
      read_compact⟩,
    read_pretty⟩

end Wire

end Casefile
