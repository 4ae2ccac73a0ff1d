import Casefile.Puzzle.Wire
import Casefile.Story.Contact

namespace Casefile

/-!
The authored content of a game: who can be talked to, and which puzzles they have.

A contact can be played when it has a bundle; it is listed when it is in the registry.  A contact
may have a bundle without being listed.
-/

structure Story where
  bundles : Table ContactId Bundle := ∅
  contacts : List Contact := []
  deriving DecidableEq

namespace Story

/-- The story with a contact's bundle, in the place of the one it had. -/
def withBundle (story : Story) (contact : ContactId) (bundle : Bundle) : Story :=
  { story with bundles := story.bundles.insert contact bundle }

def bundle? (story : Story) (contact : ContactId) : Option Bundle := story.bundles.find? contact

def puzzle? (story : Story) (contact : ContactId) (turn : Turn) : Option Puzzle :=
  (story.bundle? contact).bind fun bundle => bundle.puzzle? turn

def hasContact (story : Story) (contact : ContactId) : Bool := story.bundles.contains contact

def contact? (story : Story) (id : ContactId) : Option Contact :=
  story.contacts.find? fun contact => contact.id = id

/-- The listed contacts that have appeared by a turn. -/
def visibleContacts (story : Story) (turn : Turn) : List Contact :=
  story.contacts.filter fun contact => contact.visibleAt ≤ turn

end Story

end Casefile
