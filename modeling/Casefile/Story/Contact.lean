import Casefile.Naming

namespace Casefile

open Json (choice defaulted ifPresent present record required slots)

/-!
The contacts of a story.
-/

structure Contact where
  id : ContactId
  file : String
  name : String := ""
  avatar : String := ""
  description : String := ""
  visibleAt : Turn := Turn.first
  deriving DecidableEq

instance : Wire Contact where
  encode contact := record [
    ("id", some (Wire.encode contact.id)),
    ("file", some (Wire.encode contact.file)),
    ("name", some (Wire.encode contact.name)),
    ("avatar", some (Wire.encode contact.avatar)),
    ("description", some (Wire.encode contact.description)),
    ("visibleAtTurn", some (Wire.encode contact.visibleAt))]
  decode value := do
    let [id, file, name, avatar, description, visibleAt] ←
      slots ["id", "file", "name", "avatar", "description", "visibleAtTurn"] value | none
    return {
      id := ← required id
      file := ← required file
      name := ← defaulted "" name
      avatar := ← defaulted "" avatar
      description := ← defaulted "" description
      visibleAt := ← defaulted Turn.first visibleAt }

end Casefile
