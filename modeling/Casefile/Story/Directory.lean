import Casefile.Story.Load

namespace Casefile

/-!
What the files of a directory say of a story, told without loading it: the story that they hold, or
the first thing that is wrong with them.
-/

/-- The file at the path has a text that spells the value. -/
def Disk.Decodes {α : Type} [Wire α] (disk : Disk) (path : Path) (value : α) : Prop :=
  ∃ text, disk.readText path = .ok text ∧ Wire.read text = some value

/-- What is wrong with a file that holds no value of a type. -/
inductive FileFault (α : Type) [Wire α] (disk : Disk) (path : Path) : StoryError → Prop where
  | unreadable {reason : IoError} (failed : disk.readText path = .error reason) :
    FileFault α disk path (.read path reason)
  | malformed {text : String} (found : disk.readText path = .ok text)
    (noValue : (Wire.read text : Option α) = none) : FileFault α disk path (.parse path)

namespace Story

/-- No contact is listed twice, and the file of each holds a bundle. -/
structure Consistent (disk : Disk) (directory : Path) (contacts : List Contact) : Prop where
  distinct : (contacts.map (·.id)).Nodup
  decode : ∀ contact ∈ contacts, ∃ bundle : Bundle,
    disk.Decodes (bundlePath directory contact) bundle

/-- What is wrong with a contact that is listed after others.  Whether it was listed before does not
depend on its file. -/
inductive ContactFault (disk : Disk) (directory : Path) (before : List Contact)
    (contact : Contact) : StoryError → Prop where
  | repeated (known : contact.id ∈ before.map (·.id)) :
    ContactFault disk directory before contact (.duplicateContact contact.id)
  | ofFile {reason : StoryError} (unknown : contact.id ∉ before.map (·.id))
    (fault : FileFault Bundle disk (bundlePath directory contact) reason) :
    ContactFault disk directory before contact reason

/-- The first thing that is wrong with a directory: the list of contacts, or the contact that comes
right after those that are consistent. -/
inductive FirstFault (disk : Disk) (directory : Path) : StoryError → Prop where
  | registry {reason : StoryError}
    (fault : FileFault (List Contact) disk (registryPath directory) reason) :
    FirstFault disk directory reason
  | contact {before after : List Contact} {contact : Contact} {reason : StoryError}
    (listed : disk.Decodes (registryPath directory) (before ++ contact :: after))
    (consistent : Consistent disk directory before)
    (fault : ContactFault disk directory before contact reason) :
    FirstFault disk directory reason

/-- The contacts of a story are consistent, and it has the bundles of their files and no others. -/
structure Gathered (disk : Disk) (directory : Path) (story : Story) : Prop where
  consistent : Consistent disk directory story.contacts
  bundle : ∀ contact ∈ story.contacts, ∀ bundle,
    story.bundle? contact.id = some bundle ↔ disk.Decodes (bundlePath directory contact) bundle
  known : ∀ id, story.hasContact id = true ↔ id ∈ story.contacts.map (·.id)

/-- The directory holds the story. -/
structure HeldIn (disk : Disk) (directory : Path) (story : Story) : Prop
    extends Gathered disk directory story where
  registry : disk.Decodes (registryPath directory) story.contacts

end Story

end Casefile
