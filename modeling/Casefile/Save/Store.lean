import Casefile.Save.Edit
import Casefile.Save.Vault

namespace Casefile

/-!
The game that is being played, and its saved copy.

Every edit that changes the state is saved before the next one.  A save that fails is counted and
the game goes on; the next one that succeeds saves everything.
-/

structure Store where
  state : GameState
  vault : Vault
  /-- The saves that failed, counted without end. -/
  failures : Nat := 0

namespace Store

/-- Go on with the saved game, or start a new one where none can be loaded. -/
def resume (vault : Vault) : Store :=
  match vault.load with
  | (.ok (some state), vault) => { state, vault }
  | (_, vault) => { state := {}, vault }

def persist (store : Store) : Store :=
  match store.vault.save store.state with
  | (.ok (), vault) => { store with vault }
  | (.error _, vault) => { store with vault, failures := store.failures + 1 }

/-- Make an edit, and save it if it changes something. -/
def commit (store : Store) (edit : Edit) : Store :=
  if edit.applies store.state then { store with state := edit.apply store.state }.persist
  else store

def commitAll (store : Store) (edits : List Edit) : Store := edits.foldl commit store

/-- Start over.  What was saved is removed; a removal that fails is not counted. -/
def reset (store : Store) : Store :=
  { store with state := {}, vault := store.vault.clear.2 }

/-- The record of a puzzle, which is created if there is none. -/
def progress (store : Store) (key : StatusKey) : Progress × Store :=
  (store.state.progressOf key, store.commit (.touch key))

def countFailure (store : Store) (key : StatusKey) : UInt32 × Store :=
  let store := store.commit (.countFailure key)
  ((store.state.progressOf key).failedAttempts, store)

def advanceTurn (store : Store) (turn : Turn) : Bool × Store :=
  (store.state.turn < turn, store.commit (.advance turn))

def markRead (store : Store) (contact : ContactId) : Nat × Store :=
  (store.state.unreadCount contact, store.commit (.markRead contact))

end Store

end Casefile
