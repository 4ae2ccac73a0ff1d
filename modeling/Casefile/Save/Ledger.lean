import Casefile.Save.Request

namespace Casefile

/-!
What a store has tried to write.

A store writes the state that it has in memory, or it removes what it wrote.  A ledger lists such
writes in the order in which they were attempted, each with whether the vault accepted it.
-/

inductive Write where
  | save (state : GameState)
  | removal
  deriving DecidableEq

structure Attempt where
  write : Write
  accepted : Bool
  deriving DecidableEq

def Attempt.isRefusedSave : Attempt → Bool
  | { write := .save _, accepted } => !accepted
  | { write := .removal, .. } => false

/-- The last write that was accepted, if there was any. -/
def lastWrite (ledger : List Attempt) : Option Write :=
  (ledger.filter (·.accepted)).getLast?.map (·.write)

namespace Store

/-- The saves that some edits attempt, each of the state as it is after the edit. -/
def attempts (store : Store) : List Edit → List Attempt
  | [] => []
  | edit :: rest =>
    let after := store.commit edit
    if edit.applies store.state then
      ⟨.save after.state, (store.vault.save after.state).1.isOk⟩ :: after.attempts rest
    else after.attempts rest

def requestAttempts (store : Store) (request : Request) : List Attempt :=
  match request.edit? with
  | some edit => store.attempts [edit]
  | none => [⟨.removal, store.vault.clear.1.isOk⟩]

end Store

/-- A slot that was used after it looked like `first` holds what was written to it last. -/
def Slot.Holds (slot first : Slot) : Option Write → Prop
  | some (.save state) =>
    slot.saved? = some (Wire.encode state).compact ∧ slot.state? = some state
  | some .removal => slot.saved? = none
  | none => slot.saved? = first.saved?

end Casefile
