import Casefile.Json.Form
import Casefile.Proofs.Wire.Faithful
import Mathlib.Data.List.Nodup

namespace Casefile

/-!
Changes of presentation leave what is decoded as it is.

What a change does to a record is seen in the list of its fields: each of them is given as before,
or spelled out, or changed inside.  A type keeps to a form when no change of it is seen in what is
decoded, and for a record that follows from its fields.
-/

/-- Whether a result that is there is also the other one. -/
def Carries {α : Type} (first second : Option α) : Prop :=
  ∀ value, first = some value → second = some value

namespace Carries

variable {α β : Type}

theorem refl (result : Option α) : Carries result result := fun _ => id

theorem of_eq {first second : Option α} (same : first = second) : Carries first second :=
  same ▸ refl first

theorem bind {first second : Option α} {f g : α → Option β} (carried : Carries first second)
    (continued : ∀ value, Carries (f value) (g value)) :
    Carries (first.bind f) (second.bind g) := by
  intro result bound
  obtain ⟨value, found, rest⟩ := Option.bind_eq_some_iff.mp bound
  rw [carried value found]
  exact continued value result rest

theorem map {first second : Option α} (f : α → β) (carried : Carries first second) :
    Carries (first.map f) (second.map f) := by
  intro result mapped
  obtain ⟨value, found, same⟩ := Option.map_eq_some_iff.mp mapped
  rw [carried value found, Option.map_some, same]

theorem mapM {f : β → Option α} {old new : β} (changed : Carries (f old) (f new))
    (before after : List β) :
    Carries ((before ++ old :: after).mapM f) ((before ++ new :: after).mapM f) := by
  simp only [List.mapM_append, List.mapM_cons]
  exact (refl _).bind fun _ => (changed.bind fun _ => refl _).bind fun _ => refl _

end Carries

/-- A type that decodes alike whatever is changed in the presentation of its form. -/
class Keeps (α : Type) [Wire α] (form : Json.Form) : Prop where
  carries : ∀ {old new : Json}, form.Change old new →
    Carries (Wire.decode old : Option α) (Wire.decode new)

instance {α : Type} [Wire α] : Keeps α .plain where
  carries change := nomatch change

instance {α : Type} [Wire α] {form : Json.Form} [Keeps α form] : Keeps (List α) (.list form) where
  carries change := by
    cases change with
    | item before after change => exact Carries.mapM (Keeps.carries change) before after

instance {κ α : Type} [Named κ] [Wire α] {form : Json.Form} [Keeps α form] :
    Keeps (Table κ α) (.table form) where
  carries change := by
    cases change with
    | @value _ old new before key after change =>
        have entry : Carries (Json.tableEntry (key, old) : Option (κ × α))
            (Json.tableEntry (key, new)) := by
          intro entry made
          cases key with
          | none => cases made
          | some name =>
              cases decoded : (Wire.decode old : Option α) with
              | none => simp [Json.tableEntry, decoded] at made
              | some value =>
                  have again := Keeps.carries change value decoded
                  simpa [Json.tableEntry, decoded, again] using made
        exact (Carries.mapM entry before after).map _

namespace Json

/-! What a change does to the fields of a record. -/

/-- Whether what is given for a field says the same as before. -/
inductive Alike (field : Field Form) : Option Json → Option Json → Prop where
  | same (given : Option Json) : Alike field given given
  | spelled {value : Json} (standsIn : field.presence.standIn? = some value) :
    Alike field none (some value)
  | changed {old new : Json} (change : field.form.Change old new) :
    Alike field (some old) (some new)

inductive AllAlike : List (Field Form) → List (Option Json) → List (Option Json) → Prop where
  | nil : AllAlike [] [] []
  | cons {field : Field Form} {fields : List (Field Form)} {old new : Option Json}
    {olds news : List (Option Json)} (first : Alike field old new)
    (rest : AllAlike fields olds news) : AllAlike (field :: fields) (old :: olds) (new :: news)

variable {fields : List (Field Form)} {members others : List (Literal × Json)}

theorem slot_eq_some_iff {name : String} {given : Option Json} :
    slot members name = some given ↔
      members.filter (fun member => member.1 = some name) =
        (given.map fun value => (some name, value)).toList := by
  unfold slot
  cases found : members.filter fun member => member.1 = some name with
  | nil => cases given <;> simp
  | cons first rest =>
      have isNamed : first.1 = some name := by
        have inside : first ∈ members.filter fun member => member.1 = some name := by simp [found]
        simpa using (List.mem_filter.mp inside).2
      cases rest with
      | nil =>
          obtain ⟨key, value⟩ := first
          subst isNamed
          cases given <;> simp
      | cons => cases given <;> simp

theorem slot_of_perm {name : String} {given : Option Json} (same : members.Perm others)
    (found : slot members name = some given) : slot others name = some given := by
  have kept := same.filter fun member => member.1 = some name
  rw [slot_eq_some_iff] at found ⊢
  rw [found] at kept
  cases given with
  | none => exact List.nil_perm.mp kept
  | some value => exact (List.singleton_perm.mp kept).symm

theorem slot_add_of_ne {name other : String} (different : name ≠ other)
    (before after : List (Literal × Json)) (value : Json) :
    slot (before ++ (some name, value) :: after) other = slot (before ++ after) other := by
  simp [slot, List.filter_append, different]

theorem slot_add_iff {name : String} {given : Option Json} (before after : List (Literal × Json))
    (value : Json) :
    slot (before ++ (some name, value) :: after) name = some given ↔
      given = some value ∧ slot (before ++ after) name = some none := by
  rw [slot_eq_some_iff, slot_eq_some_iff, List.filter_append, List.filter_append,
    List.filter_cons_of_pos (by simp)]
  cases given with
  | none => simp
  | some given =>
      cases before.filter fun member => member.1 = some name with
      | nil => simp [eq_comm (a := given)]
      | cons first rest => simp

theorem allAlike_slots
    (alike : ∀ field ∈ fields, ∀ old, slot members field.name = some old →
      ∃ new, slot others field.name = some new ∧ Alike field old new)
    {olds : List (Option Json)} (found : fields.mapM (slot members ·.name) = some olds) :
    ∃ news, fields.mapM (slot others ·.name) = some news ∧ AllAlike fields olds news := by
  induction fields generalizing olds with
  | nil => cases found; exact ⟨[], rfl, .nil⟩
  | cons field fields ih =>
      rw [List.mapM_cons] at found
      obtain ⟨old, first, others⟩ := Option.bind_eq_some_iff.mp found
      obtain ⟨olds, rest, same⟩ := Option.bind_eq_some_iff.mp others
      cases same
      obtain ⟨new, firstNew, alikeFirst⟩ := alike field List.mem_cons_self old first
      obtain ⟨news, restNew, alikeRest⟩ :=
        ih (fun other later => alike other (List.mem_cons_of_mem _ later)) rest
      refine ⟨new :: news, ?_, .cons alikeFirst alikeRest⟩
      rw [List.mapM_cons, firstNew, restNew]
      rfl

theorem slots_object_alike (named : members.all (·.1.isSome) → others.all (·.1.isSome))
    (alike : ∀ field ∈ fields, ∀ old, slot members field.name = some old →
      ∃ new, slot others field.name = some new ∧ Alike field old new)
    {olds : List (Option Json)}
    (found : slots (fields.map Field.name) (.object members) = some olds) :
    ∃ news, slots (fields.map Field.name) (.object others) = some news ∧
      AllAlike fields olds news := by
  by_cases allNamed : members.all (·.1.isSome)
  · rw [slots, if_pos allNamed, List.mapM_map] at found
    rw [slots, if_pos (named allNamed), List.mapM_map]
    exact allAlike_slots alike found
  · rw [slots, if_neg allNamed] at found
    cases found

theorem allAlike_refl {given : List (Option Json)} (length : given.length = fields.length) :
    AllAlike fields given given := by
  induction fields generalizing given with
  | nil => rw [List.length_eq_zero_iff.mp length]; exact .nil
  | cons field fields ih =>
      cases given with
      | nil => cases length
      | cons first rest => exact .cons (.same first) (ih (Nat.succ.inj length))

/-- The fields of a record that is written as an array of the first of them. -/
def placed (fields : List (Field Form)) (items : List Json) : List (Option Json) :=
  items.map some ++ List.replicate (fields.length - items.length) none

theorem slots_array {items : List Json} {given : List (Option Json)} :
    slots (fields.map Field.name) (.array items) = some given ↔
      items.length ≤ fields.length ∧ placed fields items = given := by
  simp [slots, placed]

theorem length_placed {items : List Json} (fits : items.length ≤ fields.length) :
    (placed fields items).length = fields.length := by
  rw [placed, List.length_append, List.length_map, List.length_replicate]
  omega

theorem placed_cons (field : Field Form) (fields : List (Field Form)) (item : Json)
    (items : List Json) :
    placed (field :: fields) (item :: items) = some item :: placed fields items := by
  simp [placed]

theorem allAlike_place {field : Field Form} {old new : Json} {before after : List Json}
    (known : fields[before.length]? = some field) (change : field.form.Change old new)
    (fits : (before ++ old :: after).length ≤ fields.length) :
    AllAlike fields (placed fields (before ++ old :: after))
      (placed fields (before ++ new :: after)) := by
  induction before generalizing fields with
  | nil =>
      cases fields with
      | nil => cases known
      | cons first fields =>
          cases known
          rw [List.nil_append, List.nil_append, placed_cons, placed_cons]
          exact .cons (.changed change) (allAlike_refl (length_placed (Nat.le_of_succ_le_succ fits)))
  | cons item before ih =>
      cases fields with
      | nil => cases known
      | cons first fields =>
          rw [List.cons_append, List.cons_append, placed_cons, placed_cons]
          exact .cons (.same _) (ih known (Nat.le_of_succ_le_succ fits))

theorem allAlike_next {field : Field Form} {value : Json} {items : List Json}
    (next : fields[items.length]? = some field) (standsIn : field.presence.standIn? = some value) :
    AllAlike fields (placed fields items) (placed fields (items ++ [value])) := by
  induction items generalizing fields with
  | nil =>
      cases fields with
      | nil => cases next
      | cons first fields =>
          cases next
          rw [List.nil_append, placed_cons]
          have alone : placed (field :: fields) [] = none :: placed fields [] := rfl
          rw [alone]
          exact .cons (.spelled standsIn) (allAlike_refl (length_placed (Nat.zero_le _)))
  | cons item items ih =>
      cases fields with
      | nil => cases next
      | cons first fields =>
          rw [List.cons_append, placed_cons, placed_cons]
          exact .cons (.same _) (ih next)

theorem eq_of_name_eq (distinct : (fields.map Field.name).Nodup) {field other : Field Form}
    (known : field ∈ fields) (alsoKnown : other ∈ fields) (same : field.name = other.name) :
    field = other :=
  List.inj_on_of_nodup_map distinct known alsoKnown same

/-- A change of a record shows in its fields only, and in each of them as what it is. -/
theorem slots_of_change (distinct : (fields.map Field.name).Nodup) {old new : Json}
    (change : Form.Change (.record fields) old new) {olds : List (Option Json)}
    (found : slots (fields.map Field.name) old = some olds) :
    ∃ news, slots (fields.map Field.name) new = some news ∧ AllAlike fields olds news := by
  cases change with
  | @member _ field old new known before after change =>
      refine slots_object_alike (by simp) (fun other alsoKnown given isGiven => ?_) found
      by_cases here : field.name = other.name
      · obtain rfl := eq_of_name_eq distinct known alsoKnown here
        obtain ⟨rfl, alone⟩ := (slot_add_iff before after old).mp isGiven
        exact ⟨some new, (slot_add_iff before after new).mpr ⟨rfl, alone⟩, .changed change⟩
      · rw [slot_add_of_ne here] at isGiven
        exact ⟨given, by rw [slot_add_of_ne here, isGiven], .same given⟩
  | @place _ field old new before after known change =>
      obtain ⟨fits, rfl⟩ := slots_array.mp found
      refine ⟨_, slots_array.mpr ⟨?_, rfl⟩, allAlike_place known change fits⟩
      simpa using fits
  | reorder same =>
      refine slots_object_alike (fun named => by rwa [← same.all_eq])
        (fun field _ given isGiven => ?_) found
      exact ⟨given, slot_of_perm same isGiven, .same given⟩
  | @addUnknown _ name unknown before after value =>
      refine slots_object_alike (by simp) (fun field known given isGiven => ?_) found
      have apart : name ≠ field.name := (unknown field known).symm
      exact ⟨given, by rw [slot_add_of_ne apart, isGiven], .same given⟩
  | @spellOut _ field value known standsIn before after absent =>
      refine slots_object_alike (by simp) (fun other alsoKnown given isGiven => ?_) found
      by_cases here : field.name = other.name
      · obtain rfl := eq_of_name_eq distinct known alsoKnown here
        have nothing : slot (before ++ after) field.name = some none :=
          slot_eq_some_iff.mpr (List.filter_eq_nil_iff.mpr (by simpa using absent))
        obtain rfl : given = none := Option.some.inj (isGiven.symm.trans nothing)
        exact ⟨some value, (slot_add_iff before after value).mpr ⟨rfl, nothing⟩,
          .spelled standsIn⟩
      · exact ⟨given, by rw [slot_add_of_ne here, isGiven], .same given⟩
  | @spellOutNext _ field value items next standsIn =>
      obtain ⟨_, rfl⟩ := slots_array.mp found
      refine ⟨_, slots_array.mpr ⟨?_, rfl⟩, allAlike_next next standsIn⟩
      rw [List.length_append]
      exact (List.getElem?_eq_some_iff.mp next).1

/-! Each way to read a field reads it alike. -/

section

variable {α : Type} [Wire α] {name : String} {form : Form} {given other : Option Json}

theorem required_alike [Keeps α form] (alike : Alike ⟨name, .required, form⟩ given other) :
    Carries (required given : Option α) (required other) := by
  cases alike with
  | same => exact .refl _
  | spelled standsIn => cases standsIn
  | changed change => exact Keeps.carries change

theorem defaulted_alike [Keeps α form] (absent : α) {explicit : Json}
    (stands : Wire.decode explicit = some absent)
    (alike : Alike ⟨name, .defaulted explicit, form⟩ given other) :
    Carries (defaulted absent given) (defaulted absent other) := by
  cases alike with
  | same => exact .refl _
  | spelled standsIn => cases standsIn; exact .of_eq stands.symm
  | changed change => exact Keeps.carries change

/-- What is changed holds a record, so it was not `null` and does not become it. -/
theorem ne_null_of_change {old new : Json} (change : form.Change old new) :
    old ≠ .null ∧ new ≠ .null := by
  cases change <;> exact ⟨nofun, nofun⟩

theorem ifPresent_of_ne_null {value : Json} (present : value ≠ .null) :
    (ifPresent (some value) : Option (Option α)) = (Wire.decode value).map some := by
  cases value with
  | null => exact absurd rfl present
  | _ => rfl

theorem ifPresent_alike [Keeps α form] (alike : Alike ⟨name, .optional, form⟩ given other) :
    Carries (ifPresent given : Option (Option α)) (ifPresent other) := by
  cases alike with
  | same => exact .refl _
  | spelled standsIn => cases standsIn; exact .refl _
  | changed change =>
      obtain ⟨wasPresent, isPresent⟩ := ne_null_of_change change
      rw [ifPresent_of_ne_null wasPresent, ifPresent_of_ne_null isPresent]
      exact (Keeps.carries change).map some

end

end Json

/-- A record keeps to its form when the fields are read alike. -/
theorem Keeps.ofRecord {α : Type} [Wire α] {fields : List (Json.Field Json.Form)}
    {build : List (Option Json) → Option α} (distinct : (fields.map Json.Field.name).Nodup)
    (decoded : ∀ form : Json,
      Wire.decode form = (Json.slots (fields.map Json.Field.name) form).bind build)
    (alike : ∀ olds news, Json.AllAlike fields olds news → Carries (build olds) (build news)) :
    Keeps α (.record fields) where
  carries change := by
    intro value decodedOld
    rw [decoded] at decodedOld ⊢
    obtain ⟨olds, found, built⟩ := Option.bind_eq_some_iff.mp decodedOld
    obtain ⟨news, foundNew, allAlike⟩ := Json.slots_of_change distinct change found
    rw [foundNew]
    exact alike olds news allAlike value built

end Casefile
