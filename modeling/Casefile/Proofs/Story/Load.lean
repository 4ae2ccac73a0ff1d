import Casefile.Proofs.Data.Table
import Casefile.Proofs.Save.Vault
import Casefile.Story.Load

namespace Casefile

/-!
What a story that was loaded holds.

It has puzzles for everyone whom it lists, and putting in more of them takes none away.
-/

namespace Story

variable {story loaded : Story} {contact : ContactId}

/-- Whether everyone whom a story lists can be played. -/
def ListsPlayable (story : Story) : Prop :=
  ∀ contact ∈ story.contacts, story.hasContact contact.id = true

theorem readFile_of_readBytes {α : Type} [Wire α] {disk : Disk} {path : Path} {text : String}
    {value : α} (found : disk.readBytes path = .ok text.toUTF8)
    (reads : Wire.read text = some value) : readFile disk path = .ok value := by
  simp only [readFile, Disk.readText, found, Disk.fromUTF8?_toUTF8, reads]

theorem hasContact_withBundle (story : Story) (contact other : ContactId) (bundle : Bundle) :
    (story.withBundle other bundle).hasContact contact =
      (decide (contact = other) || story.hasContact contact) :=
  Table.contains_insert story.bundles other contact bundle

theorem ListsPlayable.withBundle (playable : story.ListsPlayable) (other : ContactId)
    (bundle : Bundle) : (story.withBundle other bundle).ListsPlayable := by
  intro contact listed
  rw [hasContact_withBundle, playable contact listed, Bool.or_true]

theorem ListsPlayable.enlist (playable : story.ListsPlayable) (contact : Contact)
    (bundle : Bundle) : (story.enlist contact bundle).ListsPlayable := by
  intro other listed
  rcases List.mem_append.mp listed with before | new
  · exact playable.withBundle contact.id bundle other before
  · have known := story.hasContact_withBundle contact.id contact.id bundle
    rw [List.mem_singleton.mp new]
    exact known.trans (by simp)

theorem loadContacts_cons (disk : Disk) (directory : Path) (story : Story) (contact : Contact)
    (rest : List Contact) :
    loadContacts disk directory story (contact :: rest) =
      if story.contacts.any fun listed => listed.id = contact.id then
        .error (.duplicateContact contact.id)
      else match readFile disk (bundlePath directory contact) with
        | .error reason => .error reason
        | .ok bundle => loadContacts disk directory (story.enlist contact bundle) rest :=
  (rfl)

theorem listsPlayable_of_loadContacts {disk : Disk} {directory : Path} {contacts : List Contact}
    (playable : story.ListsPlayable)
    (isLoaded : loadContacts disk directory story contacts = .ok loaded) :
    loaded.ListsPlayable := by
  induction contacts generalizing story with
  | nil =>
      cases isLoaded
      exact playable
  | cons contact contacts ih =>
      rw [loadContacts_cons] at isLoaded
      split at isLoaded
      · cases isLoaded
      · split at isLoaded
        · cases isLoaded
        next bundle _ => exact ih (playable.enlist contact bundle) isLoaded

theorem load_of_registry {disk : Disk} {directory : Path} {contacts : List Contact}
    (registry : readFile disk (registryPath directory) = .ok contacts) :
    load disk directory = loadContacts disk directory {} contacts := by
  unfold load
  rw [registry]

theorem listsPlayable_of_load {disk : Disk} {directory : Path}
    (isLoaded : load disk directory = .ok loaded) : loaded.ListsPlayable := by
  unfold load at isLoaded
  split at isLoaded
  · cases isLoaded
  · have empty : ({} : Story).ListsPlayable := fun _ listed => (List.not_mem_nil listed).elim
    exact listsPlayable_of_loadContacts empty isLoaded

theorem ListsPlayable.withBundles (playable : story.ListsPlayable)
    (bundles : List (ContactId × Bundle)) : (story.withBundles bundles).ListsPlayable := by
  induction bundles generalizing story with
  | nil => exact playable
  | cons entry bundles ih => exact ih (playable.withBundle entry.1 entry.2)

end Story

end Casefile
