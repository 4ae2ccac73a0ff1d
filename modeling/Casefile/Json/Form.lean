import Casefile.Json.Record
import Casefile.Json.Spelling
import Mathlib.Logic.Relation

namespace Casefile

/-!
Presentations of a JSON value.

A form tells where the records of a value are, which fields they have, and what may be written in
the place of a field that is left out.  `Form.Change` is one change of presentation, at any depth:
the members of a record are put in another order, a member of another name is added, or a field
that is absent is written out.
-/

namespace Json

inductive Presence where
  | required
  | optional
  | defaulted (explicit : Json)

/-- What may be written in the place of a field that is absent. -/
def Presence.standIn? : Presence → Option Json
  | .required => none
  | .optional => some .null
  | .defaulted explicit => some explicit

structure Field (φ : Type) where
  name : String
  presence : Presence
  form : φ

/-- The form of a value.  What is plain holds no records. -/
inductive Form where
  | plain
  | list (item : Form)
  | table (value : Form)
  | record (fields : List (Field Form))

namespace Form

inductive Change : Form → Json → Json → Prop where
  | item {form : Form} {old new : Json} (before after : List Json) (change : Change form old new) :
    Change (.list form) (.array (before ++ old :: after)) (.array (before ++ new :: after))
  | value {form : Form} {old new : Json} (before : List (Literal × Json)) (key : Literal)
    (after : List (Literal × Json)) (change : Change form old new) :
    Change (.table form) (.object (before ++ (key, old) :: after))
      (.object (before ++ (key, new) :: after))
  | member {fields : List (Field Form)} {field : Field Form} {old new : Json}
    (known : field ∈ fields) (before after : List (Literal × Json))
    (change : Change field.form old new) :
    Change (.record fields) (.object (before ++ (some field.name, old) :: after))
      (.object (before ++ (some field.name, new) :: after))
  /-- A record may be written as an array of its fields. -/
  | place {fields : List (Field Form)} {field : Field Form} {old new : Json}
    (before after : List Json) (known : fields[before.length]? = some field)
    (change : Change field.form old new) :
    Change (.record fields) (.array (before ++ old :: after)) (.array (before ++ new :: after))
  | reorder {fields : List (Field Form)} {members others : List (Literal × Json)}
    (same : members.Perm others) : Change (.record fields) (.object members) (.object others)
  | addUnknown {fields : List (Field Form)} {name : String}
    (unknown : ∀ field ∈ fields, field.name ≠ name) (before after : List (Literal × Json))
    (value : Json) :
    Change (.record fields) (.object (before ++ after))
      (.object (before ++ (some name, value) :: after))
  | spellOut {fields : List (Field Form)} {field : Field Form} {value : Json}
    (known : field ∈ fields) (standsIn : field.presence.standIn? = some value)
    (before after : List (Literal × Json))
    (absent : ∀ member ∈ before ++ after, member.1 ≠ some field.name) :
    Change (.record fields) (.object (before ++ after))
      (.object (before ++ (some field.name, value) :: after))
  | spellOutNext {fields : List (Field Form)} {field : Field Form} {value : Json}
    (items : List Json) (next : fields[items.length]? = some field)
    (standsIn : field.presence.standIn? = some value) :
    Change (.record fields) (.array items) (.array (items ++ [value]))

/-- Whether a text is another one in a different presentation. -/
def Rewrite (form : Form) (text other : String) : Prop :=
  ∃ old new, Spells text old ∧ Relation.ReflTransGen form.Change old new ∧ Spells other new

end Form

/-- The members of an object except those of a name. -/
def without (name : String) (members : List (Literal × Json)) : List (Literal × Json) :=
  members.filter (·.1 ≠ some name)

end Json

/-- Whether each text that loads is the text of a value, and loads the same in every
presentation. -/
def Wire.Immaterial (α : Type) [Wire α] (form : Json.Form) : Prop :=
  ∀ (text : String) (value : α), Wire.read text = some value →
    (∃ written, Json.Spells text written) ∧
    ∀ other, form.Rewrite text other → Wire.read other = some value

end Casefile
