import Casefile.Puzzle.Basic

namespace Casefile

open Json (choice defaulted ifPresent present record required slots)

/-!
The JSON form of authored puzzles.

Every field but the turn of a puzzle may be left out.
-/

instance : Wire Notice where
  encode notice := record [
    ("showNotification", some (Wire.encode notice.enabled)),
    ("notificationContact", present notice.contact?),
    ("notificationMessage", present notice.message?)]
  decode value := do
    let [enabled, contact, message] ←
      slots ["showNotification", "notificationContact", "notificationMessage"] value | none
    return {
      enabled := ← defaulted false enabled
      contact? := ← ifPresent contact
      message? := ← ifPresent message }

instance : Wire Reply where
  encode reply := record [
    ("text", some (Wire.encode reply.text)),
    ("nextTurn", present reply.nextTurn?),
    ("mediaId", present reply.mediaId?),
    ("evidenceText", present reply.evidence?),
    ("messageId", present reply.messageId?),
    ("notification", present reply.notice?)]
  decode value := do
    let [text, nextTurn, mediaId, evidence, messageId, notice] ←
      slots ["text", "nextTurn", "mediaId", "evidenceText", "messageId", "notification"] value
      | none
    return {
      text := ← defaulted "" text
      nextTurn? := ← ifPresent nextTurn
      mediaId? := ← ifPresent mediaId
      evidence? := ← ifPresent evidence
      messageId? := ← ifPresent messageId
      notice? := ← ifPresent notice }

instance : Wire Solution where
  encode solution := record [
    ("keywords", some (Wire.encode solution.keywords)),
    ("response", some (Wire.encode solution.reply))]
  decode value := do
    let [keywords, reply] ← slots ["keywords", "response"] value | none
    return {
      keywords := ← defaulted [] keywords
      reply := ← defaulted {} reply }

instance : Wire Hint where
  encode hint := record [
    ("keywords", some (Wire.encode hint.keywords)),
    ("response", some (Wire.encode hint.response))]
  decode value := do
    let [keywords, response] ← slots ["keywords", "response"] value | none
    return {
      keywords := ← defaulted [] keywords
      response := ← defaulted "" response }

instance : Wire Puzzle where
  encode puzzle := record [
    ("turnId", some (Wire.encode puzzle.turn)),
    ("preQuestion", present puzzle.preQuestion?),
    ("solution", some (Wire.encode puzzle.solution)),
    ("hints", some (Wire.encode puzzle.hints)),
    ("fallbacks", some (Wire.encode puzzle.fallbacks)),
    ("penaltyResponses", some (Wire.encode puzzle.penaltyResponses)),
    ("maxAttempts", some (Wire.encode puzzle.maxAttempts)),
    ("penaltySeconds", some (Wire.encode puzzle.penaltySeconds)),
    ("notification", present puzzle.notice?)]
  decode value := do
    let [turn, preQuestion, solution, hints, fallbacks, penaltyResponses, maxAttempts,
        penaltySeconds, notice] ←
      slots ["turnId", "preQuestion", "solution", "hints", "fallbacks", "penaltyResponses",
        "maxAttempts", "penaltySeconds", "notification"] value | none
    return {
      turn := ← required turn
      preQuestion? := ← ifPresent preQuestion
      solution := ← defaulted {} solution
      hints := ← defaulted [] hints
      fallbacks := ← defaulted [] fallbacks
      penaltyResponses := ← defaulted [] penaltyResponses
      maxAttempts := ← defaulted defaultAttempts maxAttempts
      penaltySeconds := ← defaulted defaultPenalty penaltySeconds
      notice? := ← ifPresent notice }

instance : Wire Bundle where
  encode bundle := record [("puzzles", some (Wire.encode bundle.puzzles))]
  decode value := do
    let [puzzles] ← slots ["puzzles"] value | none
    return { puzzles := ← defaulted [] puzzles }

end Casefile
