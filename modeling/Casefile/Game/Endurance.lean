import Casefile.Game.Play
import Casefile.Save.Ledger
import Casefile.Save.Outage

namespace Casefile

/-!
A play whose vault fails for a while.

Requests to the store and lines of the player come in any order, and between them the clock is set
and the vault is told to fail or to work.  What a request or a line comes to is reported together
with the state that it leaves in memory.
-/

inductive Event where
  | request (request : Request)
  | move (move : Move)
  | outage (failing : Bool)
  deriving DecidableEq

def Event.isOutage : Event → Bool
  | .outage _ => true
  | .request _ | .move _ => false

inductive Result where
  | answer (answer : Answer)
  | outcome (outcome : Outcome)
  deriving DecidableEq

structure Report where
  result : Result
  state : GameState
  deriving DecidableEq

namespace Play

def meet (play : Play) : Event → Option Report × Play
  | .request request =>
    let (answer, store) := play.store.serve request
    (some { result := .answer answer, state := store.state }, { play with store })
  | .move (.line contact text) =>
    let (outcome, play) := play.resolve contact text
    (some { result := .outcome outcome, state := play.state }, play)
  | .move (.clock now) => (none, { play with now })
  | .outage failing => (none, { play with store := play.store.meet (.outage failing) })

def meetAll (play : Play) : List Event → List Report × Play
  | [] => ([], play)
  | event :: rest =>
    let (report?, play) := play.meet event
    let (reports, play) := play.meetAll rest
    (report?.toList ++ reports, play)

def eventAttempts (play : Play) : Event → List Attempt
  | .request request => play.store.requestAttempts request
  | .move (.line contact text) => play.store.attempts (play.verdict contact text).edits
  | .move (.clock _) | .outage _ => []

/-- What was attempted to be written during some events. -/
def ledger (play : Play) : List Event → List Attempt
  | [] => []
  | event :: rest => play.eventAttempts event ++ (play.meet event).2.ledger rest

end Play

end Casefile
