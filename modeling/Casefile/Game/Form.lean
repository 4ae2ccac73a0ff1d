import Casefile.Game.State
import Casefile.Json.Form
import Casefile.Puzzle.Wire
import Casefile.Story.Contact

namespace Casefile

/-!
The forms of what is authored and of what is saved.

A field that may be left out is optional, or stands for the value that is written here.
-/

def Notice.form : Json.Form := .record [
  ⟨"showNotification", .defaulted (.bool false), .plain⟩,
  ⟨"notificationContact", .optional, .plain⟩,
  ⟨"notificationMessage", .optional, .plain⟩]

def Reply.form : Json.Form := .record [
  ⟨"text", .defaulted (.string ""), .plain⟩,
  ⟨"nextTurn", .optional, .plain⟩,
  ⟨"mediaId", .optional, .plain⟩,
  ⟨"evidenceText", .optional, .plain⟩,
  ⟨"messageId", .optional, .plain⟩,
  ⟨"notification", .optional, Notice.form⟩]

def Solution.form : Json.Form := .record [
  ⟨"keywords", .defaulted (.array []), .list .plain⟩,
  ⟨"response", .defaulted (.object []), Reply.form⟩]

def Hint.form : Json.Form := .record [
  ⟨"keywords", .defaulted (.array []), .list .plain⟩,
  ⟨"response", .defaulted (.string ""), .plain⟩]

def Puzzle.form : Json.Form := .record [
  ⟨"turnId", .required, .plain⟩,
  ⟨"preQuestion", .optional, .plain⟩,
  ⟨"solution", .defaulted (.object []), Solution.form⟩,
  ⟨"hints", .defaulted (.array []), .list Hint.form⟩,
  ⟨"fallbacks", .defaulted (.array []), .list .plain⟩,
  ⟨"penaltyResponses", .defaulted (.array []), .list .plain⟩,
  ⟨"maxAttempts", .defaulted (.nat 3), .plain⟩,
  ⟨"penaltySeconds", .defaulted (.nat 10), .plain⟩,
  ⟨"notification", .optional, Notice.form⟩]

def Bundle.form : Json.Form := .record [
  ⟨"puzzles", .defaulted (.array []), .list Puzzle.form⟩]

def Contact.form : Json.Form := .record [
  ⟨"id", .required, .plain⟩,
  ⟨"file", .required, .plain⟩,
  ⟨"name", .defaulted (.string ""), .plain⟩,
  ⟨"avatar", .defaulted (.string ""), .plain⟩,
  ⟨"description", .defaulted (.string ""), .plain⟩,
  ⟨"visibleAtTurn", .defaulted (.nat 1), .plain⟩]

def Media.form : Json.Form := .record [
  ⟨"type", .required, .plain⟩,
  ⟨"src", .required, .plain⟩,
  ⟨"alt", .optional, .plain⟩]

def Message.form : Json.Form := .record [
  ⟨"id", .required, .plain⟩,
  ⟨"content", .required, .plain⟩,
  ⟨"sender", .required, .plain⟩,
  ⟨"timestamp", .required, .plain⟩,
  ⟨"media", .optional, Media.form⟩,
  ⟨"isRead", .optional, .plain⟩]

def Progress.form : Json.Form := .record [
  ⟨"failedAttempts", .defaulted (.nat 0), .plain⟩,
  ⟨"lockedUntil", .optional, .plain⟩,
  ⟨"preQuestionShown", .defaulted (.bool false), .plain⟩]

def GameState.form : Json.Form := .record [
  ⟨"currentGlobalTurn", .defaulted (.nat 1), .plain⟩,
  ⟨"chatHistories", .defaulted (.object []), .table (.list Message.form)⟩,
  ⟨"puzzleStatus", .defaulted (.object []), .table Progress.form⟩]

end Casefile
