import Casefile.Game.Command
import Casefile.Game.Keywords
import Casefile.Game.Outcome
import Casefile.Game.Picker
import Casefile.Save.Edit
import Casefile.Story.Basic

namespace Casefile

/-!
What a line of the player comes to.

A line is looked at in a fixed order, and the first thing that applies decides: the form of the
command, the contact, the puzzle, the question before it, a lock, the solution, the first hint, and
at last a wrong answer, which locks the puzzle when there are too many of them.  The verdict is an
outcome together with the edits that it makes; nothing else changes.
-/

/-- An outcome, the edits that go with it, and the picker after it. -/
structure Verdict where
  outcome : Outcome
  edits : List Edit
  picker : Picker
  deriving DecidableEq

namespace Puzzle

def cooldownText : String := "Sistema Bloccato. Raffreddamento in corso..."

def lockoutText : String := "Sistema Bloccato."

def fallbackText : String := "Wrong."

/-- The reply to the solution, unless its announcement lacks a part. -/
def solvedOutcome (puzzle : Puzzle) : Outcome :=
  let reply := puzzle.solution.reply
  match puzzle.delivery with
  | .error _ => .configError Outcome.incompleteNoticeText
  | .ok delivery? => .success {
      text := reply.text
      nextTurn := puzzle.nextTurn
      mediaId? := reply.mediaId?
      evidence? := reply.evidence?
      messageId? := reply.messageId?
      delivery? }

def solvedEdits (puzzle : Puzzle) (key : StatusKey) : List Edit :=
  [.advance puzzle.nextTurn, .clearFailures key]

def hint? (puzzle : Puzzle) (words : Words) : Option Hint :=
  puzzle.hints.find? fun hint => words.mentionsAny hint.keywords

def lockDeadline (puzzle : Puzzle) (now : Instant) : Instant := now.after puzzle.penaltyMillis

def failed (puzzle : Puzzle) (key : StatusKey) (progress : Progress) (now : Instant)
    (picker : Picker) : Verdict :=
  let (fallback, picker) := picker.pickText puzzle.fallbacks fallbackText
  if puzzle.attemptLimit ≤ progress.failedOnce.failedAttempts then
    let (text, picker) := picker.pickText puzzle.penaltyResponses lockoutText
    { outcome := .locked text
      edits := [.countFailure key, .lock key (puzzle.lockDeadline now)]
      picker }
  else { outcome := .fail fallback, edits := [.countFailure key], picker }

def judge (puzzle : Puzzle) (key : StatusKey) (progress : Progress) (now : Instant)
    (picker : Picker) (message : String) : Verdict :=
  let words := Words.ofMessage message
  if words.mentionsAll puzzle.solution.keywords then
    { outcome := puzzle.solvedOutcome, edits := puzzle.solvedEdits key, picker }
  else match puzzle.hint? words with
    | some hint => { outcome := .hint hint.response, edits := [], picker }
    | none => puzzle.failed key progress now picker

def pendingQuestion (puzzle : Puzzle) (progress : Progress) : Option String :=
  if progress.preQuestionShown then none else puzzle.preQuestion

def receive (puzzle : Puzzle) (key : StatusKey) (progress : Progress) (now : Instant)
    (picker : Picker) (message : String) : Verdict :=
  match puzzle.pendingQuestion progress with
  | some question => { outcome := .preQuestion question, edits := [.setShown key true], picker }
  | none =>
    if progress.isLockedAt now then
      let (text, picker) := picker.pickText puzzle.penaltyResponses cooldownText
      { outcome := .locked text, edits := [], picker }
    else puzzle.judge key progress now picker message

end Puzzle

def Story.resolve (story : Story) (picker : Picker) (state : GameState) (now : Instant)
    (contact : ContactId) (line : String) : Verdict :=
  match Command.parse line with
  | none => { outcome := .invalid, edits := [], picker }
  | some command =>
    match story.bundle? contact with
    | none => { outcome := .contactNotFound, edits := [], picker }
    | some bundle =>
      match bundle.puzzle? command.turn with
      | none => { outcome := .puzzleNotFound, edits := [], picker }
      | some puzzle =>
        let key := StatusKey.of contact command.turn
        puzzle.receive key (state.progressOf key) now picker command.message

end Casefile
