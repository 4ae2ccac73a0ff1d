import Casefile.Disk.Basic
import Casefile.Story.Basic

namespace Casefile

/-!
Stories as files.

A directory holds `registry.json`, the list of contacts, and under `contacts` the file that each of
them names.  The contacts are loaded in order, and the first one that cannot be loaded is reported;
one that is listed again is reported without reading its file.
-/

inductive StoryError where
  | read (path : Path) (reason : IoError)
  | parse (path : Path)
  | duplicateContact (id : ContactId)
  deriving DecidableEq

def StoryError.message : StoryError → String
  | .read path reason => "failed to read " ++ path.text ++ ": " ++ reason.message
  | .parse path => "failed to parse " ++ path.text
  | .duplicateContact id => "contact " ++ id.text ++ " is registered twice"

namespace Story

def readFile {α : Type} [Wire α] (disk : Disk) (path : Path) : Except StoryError α :=
  match disk.readText path with
  | .error reason => .error (.read path reason)
  | .ok text =>
    match Wire.read text with
    | some value => .ok value
    | none => .error (.parse path)

def registryPath (directory : Path) : Path := directory.join ⟨"registry.json"⟩

def bundlePath (directory : Path) (contact : Contact) : Path :=
  (directory.join ⟨"contacts"⟩).join ⟨contact.file⟩

def enlist (story : Story) (contact : Contact) (bundle : Bundle) : Story :=
  { story.withBundle contact.id bundle with contacts := story.contacts ++ [contact] }

def loadContacts (disk : Disk) (directory : Path) (story : Story) :
    List Contact → Except StoryError Story
  | [] => .ok story
  | contact :: rest =>
    if story.contacts.any fun listed => listed.id = contact.id then
      .error (.duplicateContact contact.id)
    else match readFile disk (bundlePath directory contact) with
      | .error reason => .error reason
      | .ok bundle => loadContacts disk directory (story.enlist contact bundle) rest

def load (disk : Disk) (directory : Path) : Except StoryError Story :=
  match readFile disk (registryPath directory) with
  | .error reason => .error reason
  | .ok contacts => loadContacts disk directory {} contacts

/-- A story with some more bundles, each in the place of the one that its contact had. -/
def withBundles (story : Story) (bundles : List (ContactId × Bundle)) : Story :=
  bundles.foldl (fun story entry => story.withBundle entry.1 entry.2) story

end Story

end Casefile
