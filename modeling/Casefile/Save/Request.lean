import Casefile.Save.Store

namespace Casefile

/-!
Requests to a store.

A request answers from the state and may change it.  Between two requests the store may be opened
again from its vault; `Store.serveReopening` runs requests with such restarts among them.
-/

inductive Request where
  | progress (key : StatusKey)
  | countFailure (key : StatusKey)
  | clearFailures (key : StatusKey)
  | lock (key : StatusKey) (deadline : Instant)
  | setShown (key : StatusKey) (shown : Bool)
  | advanceTurn (turn : Turn)
  | addMessage (contact : ContactId) (message : Message)
  | markRead (contact : ContactId)
  | reset
  deriving DecidableEq

inductive Answer where
  | done
  | progress (progress : Progress)
  | failures (count : UInt32)
  | advanced (changed : Bool)
  | read (count : Nat)
  deriving DecidableEq

/-- The edit that a request makes; starting over is none. -/
def Request.edit? : Request → Option Edit
  | .progress key => some (.touch key)
  | .countFailure key => some (.countFailure key)
  | .clearFailures key => some (.clearFailures key)
  | .lock key deadline => some (.lock key deadline)
  | .setShown key shown => some (.setShown key shown)
  | .advanceTurn turn => some (.advance turn)
  | .addMessage contact message => some (.addMessage contact message)
  | .markRead contact => some (.markRead contact)
  | .reset => none

namespace Store

def serve (store : Store) : Request → Answer × Store
  | .progress key => (store.progress key).map .progress id
  | .countFailure key => (store.countFailure key).map .failures id
  | .clearFailures key => (.done, store.commit (.clearFailures key))
  | .lock key deadline => (.done, store.commit (.lock key deadline))
  | .setShown key shown => (.done, store.commit (.setShown key shown))
  | .advanceTurn turn => (store.advanceTurn turn).map .advanced id
  | .addMessage contact message => (.done, store.commit (.addMessage contact message))
  | .markRead contact => (store.markRead contact).map .read id
  | .reset => (.done, store.reset)

/-- What becomes of the save or the removal that a request attempts, if it attempts one. -/
def attempt? (store : Store) (request : Request) : Option (Except VaultError Unit) :=
  match request.edit? with
  | some edit =>
    if edit.applies store.state then some (store.vault.save (edit.apply store.state)).1 else none
  | none => some store.vault.clear.1

def succeeds (store : Store) (request : Request) : Bool :=
  match store.attempt? request with
  | some (.error _) => false
  | some (.ok ()) | none => true

def serveAll (store : Store) : List Request → List Answer × Store
  | [] => ([], store)
  | request :: rest =>
    let (answer, store) := store.serve request
    let (answers, store) := store.serveAll rest
    (answer :: answers, store)

def allSucceed (store : Store) : List Request → Bool
  | [] => true
  | request :: rest => store.succeeds request && (store.serve request).2.allSucceed rest

/-- Serve requests one after the other, and open the store again wherever there is none. -/
def serveReopening (store : Store) : List (Option Request) → List Answer × Store
  | [] => ([], store)
  | none :: rest => (resume store.vault).serveReopening rest
  | some request :: rest =>
    let (answer, store) := store.serve request
    let (answers, store) := store.serveReopening rest
    (answer :: answers, store)

end Store

end Casefile
