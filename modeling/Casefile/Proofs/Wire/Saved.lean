import Casefile.Game.State
import Casefile.Proofs.Wire.Faithful

namespace Casefile

open Json (defaulted_encode ifPresent_present ifPresent_present_getD present required_encode
  writableField_encode writableField_present writableField_present_getD)

/-! A saved game comes back from its JSON form, and so does everything inside it. -/

instance : FaithfulWire ContactId :=
  .ofWrapper ContactId.mk ContactId.text (fun _ => rfl) (fun _ => rfl) (fun _ => rfl)

instance : FaithfulWire MessageId :=
  .ofWrapper MessageId.mk MessageId.text (fun _ => rfl) (fun _ => rfl) (fun _ => rfl)

instance : FaithfulWire Turn :=
  .ofWrapper Turn.mk Turn.number (fun _ => rfl) (fun _ => rfl) (fun _ => rfl)

instance : FaithfulWire Instant :=
  .ofWrapper Instant.mk Instant.millis (fun _ => rfl) (fun _ => rfl) (fun _ => rfl)

instance : FaithfulWire Sender where
  decode_encode sender := by cases sender <;> rfl
  writable sender := by
    cases sender <;> exact List.forall_mem_singleton.mpr trivial
  ne_null sender := by cases sender <;> exact nofun

instance : FaithfulWire MediaKind where
  decode_encode kind := by cases kind <;> rfl
  writable kind := by
    cases kind <;> exact List.forall_mem_singleton.mpr trivial
  ne_null kind := by cases kind <;> exact nofun

instance : FaithfulWire Media :=
  .ofRecord ["type", "src", "alt"]
    (fun media =>
      [some (Wire.encode media.kind), some (Wire.encode media.source), present media.alt?])
    (by simp) (fun _ => rfl) (fun _ => rfl)
    (by simp [writableField_encode, writableField_present])
    (by
      intro media form fields
      simp [Wire.decode, fields, required_encode, ifPresent_present])

instance : FaithfulWire Message :=
  .ofRecord ["id", "content", "sender", "timestamp", "media", "isRead"]
    (fun message =>
      [some (Wire.encode message.id), some (Wire.encode message.content),
        some (Wire.encode message.sender), some (Wire.encode message.sentAt),
        present message.media?, present message.read?])
    (by simp) (fun _ => rfl) (fun _ => rfl)
    (by simp [writableField_encode, writableField_present])
    (by
      intro message form fields
      simp [Wire.decode, fields, required_encode, ifPresent_present])

/-! Records with numbers are decoded from fields of any form first: with the forms in place, the
kernel would compare a number with the bounds of its type by counting up to them. -/

theorem Progress.decode_fields {form : Json} {progress : Progress}
    {failedAttempts lockedUntil preQuestionShown : Option Json}
    (fields : Json.slots ["failedAttempts", "lockedUntil", "preQuestionShown"] form =
      some [failedAttempts, lockedUntil, preQuestionShown])
    (counted : Json.defaulted 0 failedAttempts = some progress.failedAttempts)
    (locked : Json.ifPresent lockedUntil = some progress.lockedUntil?)
    (shown : Json.defaulted false preQuestionShown = some progress.preQuestionShown) :
    Wire.decode form = some progress := by
  simp [Wire.decode, fields, counted, locked, shown]

theorem GameState.decode_fields {form : Json} {state : GameState}
    {turn chats progress : Option Json}
    (fields : Json.slots ["currentGlobalTurn", "chatHistories", "puzzleStatus"] form =
      some [turn, chats, progress])
    (reached : Json.defaulted Turn.first turn = some state.turn)
    (said : Json.defaulted ∅ chats = some state.chats)
    (recorded : Json.defaulted ∅ progress = some state.progress) :
    Wire.decode form = some state := by
  simp [Wire.decode, fields, reached, said, recorded]

instance : FaithfulWire Progress :=
  .ofRecord ["failedAttempts", "lockedUntil", "preQuestionShown"]
    (fun progress =>
      [some (Wire.encode progress.failedAttempts),
        some ((present progress.lockedUntil?).getD .null),
        some (Wire.encode progress.preQuestionShown)])
    (by simp) (fun _ => rfl) (fun _ => rfl)
    (by simp [writableField_encode, writableField_present_getD])
    (fun _ _ fields =>
      Progress.decode_fields fields (defaulted_encode _ _) (ifPresent_present_getD _)
        (defaulted_encode _ _))

instance : FaithfulWire GameState :=
  .ofRecord ["currentGlobalTurn", "chatHistories", "puzzleStatus"]
    (fun state =>
      [some (Wire.encode state.turn), some (Wire.encode state.chats),
        some (Wire.encode state.progress)])
    (by simp) (fun _ => rfl) (fun _ => rfl) (by simp [writableField_encode])
    (fun _ _ fields =>
      GameState.decode_fields fields (defaulted_encode _ _) (defaulted_encode _ _)
        (defaulted_encode _ _))

end Casefile
