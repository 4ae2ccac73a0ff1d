import Casefile.Data.Table
import Casefile.Json.Reader

namespace Casefile

/-!
Values that have a JSON form.

A record is written as an object.  It is read from an object, whose members may come in any order
and among members of other names, or from an array of its fields in order of declaration, from
which fields at the end may be left out.  `Json.slots` reduces both to one list with a place for
each field, so the rule for an absent field is the same in both.
-/

class Wire (α : Type) where
  encode : α → Json
  decode : Json → Option α

namespace Json

/-- What the members of an object say about one field; a field may not be given twice. -/
def slot (members : List (Literal × Json)) (name : String) : Option (Option Json) :=
  match members.filter fun member => member.1 = some name with
  | [] => some none
  | [member] => some (some member.2)
  | _ :: _ :: _ => none

def slots (names : List String) : Json → Option (List (Option Json))
  | .object members =>
    if members.all fun member => member.1.isSome then names.mapM (slot members) else none
  | .array items =>
    if items.length ≤ names.length then
      some (items.map some ++ List.replicate (names.length - items.length) none)
    else none
  | _ => none

def required {α : Type} [Wire α] (field : Option Json) : Option α := field.bind Wire.decode

/-- A field that stands for a given value when it is absent. -/
def defaulted {α : Type} [Wire α] (absent : α) : Option Json → Option α
  | none => some absent
  | some value => Wire.decode value

/-- A field that may be absent; `null` says the same. -/
def ifPresent {α : Type} [Wire α] : Option Json → Option (Option α)
  | none => some none
  | some .null => some none
  | some value => (Wire.decode value).map some

/-- A name from a list of names, or an object that gives `null` to that name. -/
def choice {α : Type} (names : List (String × α)) : Json → Option α
  | .text (some name) => names.lookup name
  | .object [(some name, .null)] => names.lookup name
  | _ => none

/-- The form of a field that is left out when it has no value. -/
def present {α : Type} [Wire α] (value : Option α) : Option Json := value.map Wire.encode

end Json

instance : Wire String where
  encode := .string
  decode
    | .text literal => literal
    | _ => none

instance : Wire Bool where
  encode := .bool
  decode
    | .bool value => some value
    | _ => none

instance : Wire UInt32 where
  encode n := .nat n.toNat
  decode
    | .int value => if 0 ≤ value ∧ value < UInt32.size then some (UInt32.ofNat value.toNat) else none
    | _ => none

instance : Wire Int64 where
  encode n := .int n.toInt
  decode
    | .int value => if Int64.minValue.toInt ≤ value ∧ value ≤ Int64.maxValue.toInt then some (Int64.ofInt value) else none
    | _ => none

instance {α : Type} [Wire α] : Wire (List α) where
  encode items := .array (items.map Wire.encode)
  decode
    | .array items => items.mapM Wire.decode
    | _ => none

def Json.tableEntry {κ α : Type} [Named κ] [Wire α] (member : Json.Literal × Json) :
    Option (κ × α) :=
  match member.1, Wire.decode member.2 with
  | some name, some value => some (Named.ofName name, value)
  | _, _ => none

instance {κ α : Type} [Named κ] [Wire α] : Wire (Table κ α) where
  encode table :=
    .object (table.entries.map fun entry => (some (Named.name entry.1), Wire.encode entry.2))
  decode
    | .object members => (members.mapM Json.tableEntry).map Table.ofList
    | _ => none

def Wire.read {α : Type} [Wire α] (text : String) : Option α := (Json.read text).bind Wire.decode

end Casefile
