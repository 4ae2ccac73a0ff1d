import Casefile.Naming
import Casefile.Text.Blank

namespace Casefile

/-!
Authored puzzles.

A contact has a bundle of puzzles, one for each turn.  A puzzle is solved by a message that holds
all of its keywords; its reply may name the next turn and announce itself to another contact.
-/

def isBlankText (text : String) : Bool := text.toList.all Text.isBlank

structure Notice where
  enabled : Bool := false
  contact? : Option ContactId := none
  message? : Option String := none
  deriving DecidableEq

structure Delivery where
  contact : ContactId
  message : String
  deriving DecidableEq

inductive MissingPart where
  | contact
  | message
  deriving DecidableEq

structure Reply where
  text : String := ""
  nextTurn? : Option Turn := none
  mediaId? : Option String := none
  evidence? : Option String := none
  messageId? : Option String := none
  notice? : Option Notice := none
  deriving DecidableEq

structure Solution where
  keywords : List String := []
  reply : Reply := {}
  deriving DecidableEq

structure Hint where
  keywords : List String := []
  response : String := ""
  deriving DecidableEq

def defaultAttempts : UInt32 := 3

def defaultPenalty : UInt32 := 10

structure Puzzle where
  turn : Turn
  preQuestion? : Option String := none
  solution : Solution := {}
  hints : List Hint := []
  fallbacks : List String := []
  penaltyResponses : List String := []
  maxAttempts : UInt32 := defaultAttempts
  penaltySeconds : UInt32 := defaultPenalty
  notice? : Option Notice := none
  deriving DecidableEq

structure Bundle where
  puzzles : List Puzzle := []
  deriving DecidableEq

def MissingPart.field : MissingPart → String
  | .contact => "notificationContact"
  | .message => "notificationMessage"

def MissingPart.complaint (missing : MissingPart) : String :=
  "notification is enabled but " ++ missing.field ++ " is missing"

/-- What an announcement delivers: nothing unless it is enabled, and never to nobody or without a
text. -/
def Notice.delivery (notice : Notice) : Except MissingPart (Option Delivery) :=
  if !notice.enabled then .ok none
  else match notice.contact?.filter (!isBlankText ·.text) with
    | none => .error .contact
    | some contact =>
      match notice.message?.filter (!isBlankText ·) with
      | none => .error .message
      | some message => .ok (some { contact, message })

/-- The turn that follows a puzzle of some turn: the one that the reply names, unless that is zero,
or else the next one. -/
def Reply.nextTurnAfter (reply : Reply) (turn : Turn) : Turn :=
  match reply.nextTurn? with
  | some next => if 0 < next.number then next else turn.next
  | none => turn.next

namespace Puzzle

def simple (turn : Turn) (keywords : List String) (text : String) : Puzzle :=
  { turn, solution := { keywords, reply := { text } } }

/-- The question that is asked before the puzzle can be answered; a blank one is none. -/
def preQuestion (puzzle : Puzzle) : Option String := puzzle.preQuestion?.filter (!isBlankText ·)

def attemptLimit (puzzle : Puzzle) : UInt32 :=
  if puzzle.maxAttempts = 0 then defaultAttempts else puzzle.maxAttempts

def penaltyMillis (puzzle : Puzzle) : Int64 :=
  let seconds := if puzzle.penaltySeconds = 0 then defaultPenalty else puzzle.penaltySeconds
  Int64.ofNat (seconds.toNat * 1000)

/-- The announcement that counts: the one of the reply before the one of the puzzle. -/
def notice (puzzle : Puzzle) : Option Notice := puzzle.solution.reply.notice? <|> puzzle.notice?

def delivery (puzzle : Puzzle) : Except MissingPart (Option Delivery) :=
  match puzzle.notice with
  | none => .ok none
  | some notice => notice.delivery

def nextTurn (puzzle : Puzzle) : Turn := puzzle.solution.reply.nextTurnAfter puzzle.turn

end Puzzle

def Bundle.puzzle? (bundle : Bundle) (turn : Turn) : Option Puzzle :=
  bundle.puzzles.find? fun puzzle => puzzle.turn = turn

end Casefile
