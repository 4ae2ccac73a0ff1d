import Casefile.Json.Record
import Casefile.Proofs.Data.Table
import Casefile.Proofs.Json.RoundTrip

namespace Casefile

/-!
Values that come back from their JSON form.

A form is faithful when it decodes to the value it was made from, and every token of it can be
read back.  Its compact and its indented text are then two spellings of the value.
-/

/-- A type whose JSON form, in either layout, gives its values back. -/
class FaithfulWire (α : Type) [Wire α] : Prop where
  decode_encode : ∀ value : α, Wire.decode (Wire.encode value) = some value
  writable : ∀ value : α, (Wire.encode value).Writable
  ne_null : ∀ value : α, Wire.encode value ≠ .null

namespace Wire

variable {α : Type} [Wire α] [FaithfulWire α]

theorem read_compact (value : α) : Wire.read (Wire.encode value).compact = some value := by
  rw [Wire.read, Json.read_compact (FaithfulWire.writable value)]
  exact FaithfulWire.decode_encode value

theorem read_pretty (value : α) : Wire.read (Wire.encode value).pretty = some value := by
  rw [Wire.read, Json.read_pretty (FaithfulWire.writable value)]
  exact FaithfulWire.decode_encode value

end Wire

namespace Json

/-! Arrays and objects are writable when what they hold is. -/

theorem writable_itemTokens {items : List Json} (each : ∀ item ∈ items, item.Writable) :
    ∀ token ∈ itemTokens items, token.Writable := by
  intro token member
  obtain ⟨item, inside, place⟩ := List.mem_flatMap.mp member
  rcases List.mem_cons.mp place with rfl | inItem
  · trivial
  · exact each item inside token inItem

theorem writable_array {items : List Json} (each : ∀ item ∈ items, item.Writable) :
    (Json.array items).Writable := by
  cases items with
  | nil => exact List.forall_mem_cons.mpr ⟨trivial, List.forall_mem_singleton.mpr trivial⟩
  | cons item items =>
      intro token member
      rw [tokens_array_cons] at member
      simp only [List.mem_cons, List.mem_append, List.not_mem_nil, or_false] at member
      rcases member with rfl | first | others | rfl
      · trivial
      · exact each item (by simp) token first
      · exact writable_itemTokens (fun other later => each other (by simp [later])) token others
      · trivial

theorem writable_memberTokens {members : List (Literal × Json)}
    (each : ∀ member ∈ members, member.1 ≠ none ∧ member.2.Writable) :
    ∀ token ∈ memberTokens members, token.Writable := by
  intro token member
  obtain ⟨⟨key, value⟩, inside, place⟩ := List.mem_flatMap.mp member
  obtain ⟨named, writable⟩ := each _ inside
  simp only [List.mem_cons] at place
  rcases place with rfl | rfl | rfl | inValue
  · trivial
  · cases key with
    | none => exact named rfl
    | some => trivial
  · trivial
  · exact writable token inValue

theorem writable_object {members : List (Literal × Json)}
    (each : ∀ member ∈ members, member.1 ≠ none ∧ member.2.Writable) :
    (Json.object members).Writable := by
  cases members with
  | nil => exact List.forall_mem_cons.mpr ⟨trivial, List.forall_mem_singleton.mpr trivial⟩
  | cons first members =>
      have others : ∀ token ∈ memberTokens members, token.Writable :=
        writable_memberTokens fun other later => each other (List.mem_cons_of_mem _ later)
      have every := writable_memberTokens each
      intro token member
      rw [tokens_object_cons] at member
      rw [memberTokens_cons] at every
      simp only [List.mem_cons, List.mem_append, List.not_mem_nil, or_false] at member every
      rcases member with rfl | rfl | rfl | inValue | inRest | rfl
      · trivial
      · exact every _ (.inr (.inl rfl))
      · trivial
      · exact every token (.inr (.inr (.inr (.inl inValue))))
      · exact others token inRest
      · trivial

/-! A record is writable when its fields are, and gives each of them back. -/

def WritableField (field : Option Json) : Prop := ∀ value ∈ field, value.Writable

def written (members : List (String × Option Json)) : List (Literal × Json) :=
  members.filterMap fun member => member.2.map fun value => (some member.1, value)

theorem mem_written {members : List (String × Option Json)} {entry : Literal × Json}
    (inside : entry ∈ written members) :
    ∃ member ∈ members, entry.1 = some member.1 ∧ entry.2 ∈ member.2 := by
  obtain ⟨member, given, kept⟩ := List.mem_filterMap.mp inside
  obtain ⟨value, present, rfl⟩ := Option.map_eq_some_iff.mp kept
  exact ⟨member, given, rfl, present⟩

theorem writable_record {members : List (String × Option Json)}
    (each : ∀ member ∈ members, WritableField member.2) : (record members).Writable := by
  apply writable_object
  intro entry inside
  obtain ⟨member, given, named, present⟩ := mem_written inside
  exact ⟨by rw [named]; exact nofun, each member given entry.2 present⟩

theorem slot_written {members : List (String × Option Json)}
    (distinct : members.Pairwise fun a b => a.1 ≠ b.1) {name : String} {field : Option Json}
    (given : (name, field) ∈ members) : slot (written members) name = some field := by
  have kept : (written members).filter (fun entry => entry.1 = some name) =
      (field.map fun value => (some name, value)).toList := by
    induction members with
    | nil => cases given
    | cons first members ih =>
        obtain ⟨fresh, others⟩ := List.pairwise_cons.mp distinct
        rcases List.mem_cons.mp given with rfl | later
        · have absent : (written members).filter (fun entry => entry.1 = some name) = [] := by
            apply List.filter_eq_nil_iff.mpr
            intro entry inside
            obtain ⟨member, present, named, _⟩ := mem_written inside
            simpa [named] using Ne.symm (fresh member present)
          cases field with
          | none => simpa [written] using absent
          | some value => simpa [written] using absent
        · have different : first.1 ≠ name := fresh _ later
          have rest := ih others later
          cases value : first.2 with
          | none => simpa [written, value] using rest
          | some value => simpa [written, value, different] using rest
  rw [slot, kept]
  cases field <;> rfl

theorem mapM_eq_map {α β : Type} {f : α → Option β} {g : α → β} {items : List α}
    (each : ∀ item ∈ items, f item = some (g item)) : items.mapM f = some (items.map g) := by
  induction items with
  | nil => rfl
  | cons item items ih =>
      simp [each item (by simp), ih fun other member => each other (by simp [member])]

/-- A record of some fields says about each of them what it was given. -/
theorem slots_record (names : List String) (fields : List (Option Json)) (distinct : names.Nodup)
    (length : fields.length = names.length) :
    slots names (record (names.zip fields)) = some fields := by
  have keys : (names.zip fields).map (·.1) = names := List.map_fst_zip (Nat.le_of_eq length.symm)
  have values : (names.zip fields).map (·.2) = fields := List.map_snd_zip (Nat.le_of_eq length)
  have different : (names.zip fields).Pairwise fun a b => a.1 ≠ b.1 :=
    List.pairwise_map.mp (keys.symm ▸ distinct)
  have named : (written (names.zip fields)).all (fun entry => entry.1.isSome) = true := by
    apply List.all_eq_true.mpr
    intro entry inside
    obtain ⟨_, _, named, _⟩ := mem_written inside
    rw [named]
    rfl
  calc slots names (record (names.zip fields))
      = names.mapM (slot (written (names.zip fields))) := if_pos named
    _ = ((names.zip fields).map (·.1)).mapM (slot (written (names.zip fields))) := by rw [keys]
    _ = (names.zip fields).mapM (slot (written (names.zip fields)) ∘ (·.1)) := List.mapM_map
    _ = some ((names.zip fields).map (·.2)) :=
        mapM_eq_map fun member given => slot_written different given
    _ = some fields := by rw [values]

section

variable {α : Type} [Wire α] [FaithfulWire α]

theorem writableField_encode (value : α) : WritableField (some (Wire.encode value)) := by
  rintro _ ⟨⟩
  exact FaithfulWire.writable value

theorem writableField_present (value : Option α) : WritableField (present value) := by
  cases value with
  | none => exact fun _ absent => nomatch absent
  | some value => exact writableField_encode value

theorem writableField_present_getD (value : Option α) :
    WritableField (some ((present value).getD .null)) := by
  cases value with
  | none =>
      rintro _ ⟨⟩
      exact List.forall_mem_singleton.mpr trivial
  | some value => exact writableField_encode value

theorem required_encode (value : α) : required (some (Wire.encode value)) = some value :=
  FaithfulWire.decode_encode value

theorem defaulted_encode (absent value : α) :
    defaulted absent (some (Wire.encode value)) = some value :=
  FaithfulWire.decode_encode value

theorem ifPresent_encode (value : α) :
    ifPresent (some (Wire.encode value)) = some (some value) := by
  have decoded := FaithfulWire.decode_encode value
  unfold ifPresent
  split
  next equal => cases equal
  next equal => exact absurd (Option.some.inj equal) (FaithfulWire.ne_null value)
  next equal => cases equal; rw [decoded]; rfl

theorem ifPresent_present (value : Option α) : ifPresent (present value) = some value := by
  cases value with
  | none => rfl
  | some value => exact ifPresent_encode value

theorem ifPresent_present_getD (value : Option α) :
    ifPresent (some ((present value).getD .null)) = some value := by
  cases value with
  | none => rfl
  | some value => exact ifPresent_encode value

end

end Json

theorem FaithfulWire.ofWrapper {α β : Type} [Wire α] [FaithfulWire α] [Wire β] (wrap : α → β)
    (content : β → α) (wrapped : ∀ value, wrap (content value) = value)
    (encoded : ∀ value, Wire.encode value = Wire.encode (content value))
    (decoded : ∀ json, Wire.decode json = (Wire.decode json).map wrap) : FaithfulWire β where
  decode_encode value := by
    rw [decoded, encoded, FaithfulWire.decode_encode, Option.map_some, wrapped]
  writable value := encoded value ▸ FaithfulWire.writable (content value)
  ne_null value := encoded value ▸ FaithfulWire.ne_null (content value)

/-- A form is faithful when it is a record, and the value comes back from what any form with the
same fields says about them. -/
theorem FaithfulWire.ofRecord {α : Type} [Wire α] (names : List String)
    (fields : α → List (Option Json)) (distinct : names.Nodup)
    (length : ∀ value, (fields value).length = names.length)
    (encoded : ∀ value, Wire.encode value = Json.record (names.zip (fields value)))
    (writable : ∀ value, ∀ field ∈ fields value, Json.WritableField field)
    (decoded : ∀ value form, Json.slots names form = some (fields value) →
      Wire.decode form = some value) : FaithfulWire α where
  decode_encode value := by
    apply decoded
    rw [encoded]
    exact Json.slots_record names (fields value) distinct (length value)
  writable value := by
    rw [encoded]
    apply Json.writable_record
    intro member given
    exact writable value member.2 (List.of_mem_zip given).2
  ne_null value := by
    rw [encoded]
    exact nofun

/-! The forms of texts, numbers, lists and tables. -/

instance : FaithfulWire String where
  decode_encode _ := rfl
  writable _ := fun token member => by rw [List.mem_singleton.mp member]; trivial
  ne_null _ := fun equal => nomatch equal

instance : FaithfulWire Bool where
  decode_encode _ := rfl
  writable _ := fun token member => by rw [List.mem_singleton.mp member]; trivial
  ne_null _ := fun equal => nomatch equal

instance : FaithfulWire UInt32 where
  decode_encode n := by
    have bounds : (0 : Int) ≤ n.toNat ∧ (n.toNat : Int) < UInt32.size :=
      ⟨Int.natCast_nonneg _, Int.ofNat_lt.mpr n.toNat_lt⟩
    simp only [Wire.encode, Wire.decode, if_pos bounds, Int.toNat_natCast, UInt32.ofNat_toNat]
  writable _ := fun token member => by rw [List.mem_singleton.mp member]; trivial
  ne_null _ := fun equal => nomatch equal

instance : FaithfulWire Int64 where
  decode_encode n := by
    have bounds : Int64.minValue.toInt ≤ n.toInt ∧ n.toInt ≤ Int64.maxValue.toInt :=
      ⟨n.minValue_le_toInt, n.toInt_le⟩
    simp only [Wire.encode, Wire.decode, if_pos bounds, Int64.ofInt_toInt]
  writable _ := fun token member => by rw [List.mem_singleton.mp member]; trivial
  ne_null _ := fun equal => nomatch equal

instance {α : Type} [Wire α] [FaithfulWire α] : FaithfulWire (List α) where
  decode_encode items := by
    have decoded : items.mapM (Wire.decode ∘ Wire.encode) = some (items.map id) :=
      Json.mapM_eq_map fun item _ => FaithfulWire.decode_encode item
    simp only [Wire.encode, Wire.decode, List.mapM_map, decoded, List.map_id]
  writable items := Json.writable_array fun json member => by
    obtain ⟨item, _, rfl⟩ := List.mem_map.mp member
    exact FaithfulWire.writable item
  ne_null _ := fun equal => nomatch equal

instance {κ α : Type} [Named κ] [Wire α] [FaithfulWire α] : FaithfulWire (Table κ α) where
  decode_encode table := by
    have decoded : table.entries.mapM (Json.tableEntry ∘ fun entry =>
        (some (Named.name entry.1), Wire.encode entry.2)) = some (table.entries.map id) := by
      apply Json.mapM_eq_map
      intro entry _
      simp only [Function.comp_apply, Json.tableEntry, FaithfulWire.decode_encode,
        Named.ofName_name, id_eq]
    simp only [Wire.encode, Wire.decode, List.mapM_map, decoded, List.map_id, Option.map_some,
      Table.ofList_entries]
  writable table := Json.writable_object fun member inside => by
    obtain ⟨entry, _, rfl⟩ := List.mem_map.mp inside
    exact ⟨nofun, FaithfulWire.writable entry.2⟩
  ne_null _ := fun equal => nomatch equal

end Casefile
