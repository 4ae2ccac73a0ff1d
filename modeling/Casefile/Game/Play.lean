import Casefile.Game.Resolver
import Casefile.Save.Store

namespace Casefile

/-!
A story played line by line.

Only what a line comes to matters here, not the chats in which it appears.  Between two lines the
clock may be set to any instant, also to an earlier one.
-/

structure Play where
  story : Story
  store : Store
  picker : Picker
  now : Instant

inductive Move where
  | line (contact : ContactId) (text : String)
  | clock (now : Instant)
  deriving DecidableEq

/-- The message of a line for a contact's puzzle of a turn. -/
def Move.message? (contact : ContactId) (turn : Turn) : Move → Option String
  | .line addressee text =>
    match Command.parse text with
    | some command =>
      if addressee = contact ∧ command.turn = turn then some command.message else none
    | none => none
  | .clock _ => none

namespace Play

def state (play : Play) : GameState := play.store.state

def verdict (play : Play) (contact : ContactId) (line : String) : Verdict :=
  play.story.resolve play.picker play.state play.now contact line

def resolve (play : Play) (contact : ContactId) (line : String) : Outcome × Play :=
  let verdict := play.verdict contact line
  (verdict.outcome,
    { play with store := play.store.commitAll verdict.edits, picker := verdict.picker })

def make (play : Play) : Move → Play
  | .line contact text => (play.resolve contact text).2
  | .clock now => { play with now }

def run (play : Play) (moves : List Move) : Play := moves.foldl make play

/-- The moves, each with the play in which it is made. -/
def history (play : Play) : List Move → List (Play × Move)
  | [] => []
  | move :: rest => (play, move) :: (play.make move).history rest

end Play

end Casefile
