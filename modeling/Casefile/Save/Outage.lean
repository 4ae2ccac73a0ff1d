import Casefile.Save.Request

namespace Casefile

/-!
Requests to a store whose vault fails for a while.

What cannot be saved is counted, and the game goes on.  A removal that is refused is not counted: it
is owed until something is saved or removed after it.
-/

/-- What happens to a store that stays open. -/
inductive Incident where
  | request (request : Request)
  | outage (failing : Bool)
  deriving DecidableEq

def Vault.isFailing : Vault → Bool
  | .memory slot => slot.failing
  | .file _ _ => false

namespace Store

def meet (store : Store) : Incident → Store
  | .request request => (store.serve request).2
  | .outage failing => { store with vault := store.vault.setFailing failing }

def meetAll (store : Store) (incidents : List Incident) : Store := incidents.foldl meet store

def owesAfter (store : Store) (owed : Bool) : Incident → Bool
  | .outage _ => owed
  | .request request =>
    match store.attempt? request with
    | none => owed
    | some (.ok ()) => false
    | some (.error _) => owed || request.edit?.isNone

/-- Whether a removal is owed after some incidents. -/
def owesRemoval (store : Store) (owed : Bool) : List Incident → Bool
  | [] => owed
  | incident :: rest => (store.meet incident).owesRemoval (store.owesAfter owed incident) rest

end Store

end Casefile
