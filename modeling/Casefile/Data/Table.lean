namespace Casefile

/-!
Finite maps whose keys are names.

A `Table` is a list of entries in strictly increasing order of the keys' names, code point by code
point.  Two tables with the same look-ups are therefore the same table (`Table.ext_find?`), and
the order in which keys were first written leaves no trace.
-/

/-- A key type that is a name in disguise. -/
class Named (κ : Type) where
  name : κ → String
  ofName : String → κ
  name_ofName : ∀ text, name (ofName text) = text
  ofName_name : ∀ key, ofName (name key) = key

namespace Named

variable {κ : Type} [Named κ]

theorem name_injective {a b : κ} (same : name a = name b) : a = b := by
  rw [← ofName_name a, ← ofName_name b, same]

end Named

instance : Named String where
  name := id
  ofName := id
  name_ofName _ := rfl
  ofName_name _ := rfl

namespace Table

variable {κ α : Type} [Named κ]

/-- Every entry comes strictly before the ones after it. -/
def Sorted (entries : List (κ × α)) : Prop :=
  entries.Pairwise fun a b => Named.name a.1 < Named.name b.1

/-- Write one entry of a sorted list, replacing the entry of the same name. -/
def put (key : κ) (value : α) : List (κ × α) → List (κ × α)
  | [] => [(key, value)]
  | entry :: rest =>
    if Named.name key < Named.name entry.1 then (key, value) :: entry :: rest
    else if Named.name key = Named.name entry.1 then (key, value) :: rest
    else entry :: put key value rest

def seek (key : κ) : List (κ × α) → Option α
  | [] => none
  | entry :: rest => if Named.name entry.1 = Named.name key then some entry.2 else seek key rest

theorem mem_put {key : κ} {value : α} {entry : κ × α} {entries : List (κ × α)}
    (member : entry ∈ put key value entries) : entry = (key, value) ∨ entry ∈ entries := by
  induction entries with
  | nil => simpa [put] using member
  | cons first rest ih =>
    unfold put at member
    split at member
    · simpa using member
    · split at member
      · rcases List.mem_cons.mp member with same | later
        · exact .inl same
        · exact .inr (List.mem_cons_of_mem _ later)
      · rcases List.mem_cons.mp member with same | later
        · exact .inr (same ▸ List.mem_cons_self ..)
        · exact (ih later).imp_right (List.mem_cons_of_mem _)

private theorem lt_of_not_lt_of_ne {a b : String} (notBefore : ¬ a < b) (different : a ≠ b) :
    b < a := by
  rcases String.le_total a b with below | above
  · exact absurd (String.le_antisymm below (String.not_lt.mp notBefore)) different
  · exact Decidable.byContradiction fun notAbove =>
      different (String.le_antisymm (String.not_lt.mp notAbove) (String.not_lt.mp notBefore))

theorem sorted_put (key : κ) (value : α) {entries : List (κ × α)} (sorted : Sorted entries) :
    Sorted (put key value entries) := by
  induction entries with
  | nil => exact List.pairwise_singleton ..
  | cons first rest ih =>
    obtain ⟨before, sortedRest⟩ := List.pairwise_cons.mp sorted
    unfold put
    split
    next earlier =>
      exact List.pairwise_cons.mpr ⟨fun entry member => by
        rcases List.mem_cons.mp member with same | later
        · exact same ▸ earlier
        · exact String.lt_trans earlier (before entry later), sorted⟩
    next notEarlier =>
      split
      next same =>
        exact List.pairwise_cons.mpr ⟨fun entry member => by
          simpa [same] using before entry member, sortedRest⟩
      next different =>
        refine List.pairwise_cons.mpr ⟨fun entry member => ?_, ih sortedRest⟩
        rcases mem_put member with same | later
        · exact same ▸ lt_of_not_lt_of_ne notEarlier different
        · exact before entry later

theorem seek_put_self (key : κ) (value : α) (entries : List (κ × α)) :
    seek key (put key value entries) = some value := by
  induction entries with
  | nil => simp [put, seek]
  | cons first rest ih =>
    unfold put
    split
    · simp [seek]
    · split
      · simp [seek]
      next different => simp [seek, Ne.symm different, ih]

theorem seek_put_of_ne {key other : κ} (value : α) (different : other ≠ key)
    (entries : List (κ × α)) : seek other (put key value entries) = seek other entries := by
  have names : Named.name key ≠ Named.name other :=
    fun same => different (Named.name_injective same.symm)
  induction entries with
  | nil => simp [put, seek, names]
  | cons first rest ih =>
    unfold put
    split
    · simp [seek, names]
    · split
      next same => simp [seek, ← same, names]
      next => simp [seek, ih]

theorem seek_eq_none {key : κ} {entries : List (κ × α)}
    (different : ∀ entry ∈ entries, Named.name entry.1 ≠ Named.name key) :
    seek key entries = none := by
  induction entries with
  | nil => rfl
  | cons first rest ih =>
    obtain ⟨here, later⟩ := List.forall_mem_cons.mp different
    simp [seek, here, ih later]

theorem seek_eq_none_of_before (key : κ) (entries : List (κ × α))
    (before : ∀ entry ∈ entries, Named.name key < Named.name entry.1) :
    seek key entries = none :=
  seek_eq_none fun entry member same => String.lt_irrefl _ (same ▸ before entry member)

theorem eq_of_seek_eq {left right : List (κ × α)} (sortedLeft : Sorted left)
    (sortedRight : Sorted right) (same : ∀ key, seek key left = seek key right) :
    left = right := by
  induction left generalizing right with
  | nil =>
    cases right with
    | nil => rfl
    | cons first rest => simpa [seek] using same first.1
  | cons first rest ih =>
    cases right with
    | nil => simpa [seek] using same first.1
    | cons second others =>
      obtain ⟨beforeLeft, restSorted⟩ := List.pairwise_cons.mp sortedLeft
      obtain ⟨beforeRight, othersSorted⟩ := List.pairwise_cons.mp sortedRight
      have names : Named.name first.1 = Named.name second.1 := by
        apply Decidable.byContradiction
        intro different
        rcases String.le_total (Named.name first.1) (Named.name second.1) with below | above
        · have strict : Named.name first.1 < Named.name second.1 :=
            lt_of_not_lt_of_ne (fun reverse => different
              (String.le_antisymm below (String.not_lt.mp (String.lt_asymm reverse)))) (Ne.symm different)
          have absent := seek_eq_none_of_before first.1 (second :: others)
            fun entry member => by
              rcases List.mem_cons.mp member with same | later
              · exact same ▸ strict
              · exact String.lt_trans strict (beforeRight entry later)
          have found := (same first.1).trans absent
          simp [seek] at found
        · have strict : Named.name second.1 < Named.name first.1 :=
            lt_of_not_lt_of_ne (fun reverse => different
              (String.le_antisymm (String.not_lt.mp (String.lt_asymm reverse)) above)) different
          have absent := seek_eq_none_of_before second.1 (first :: rest)
            fun entry member => by
              rcases List.mem_cons.mp member with same | later
              · exact same ▸ strict
              · exact String.lt_trans strict (beforeLeft entry later)
          have found := (same second.1).symm.trans absent
          simp [seek] at found
      have keys := Named.name_injective names
      have values : first.2 = second.2 := by
        have found := same first.1
        simpa [seek, names] using found
      have heads : first = second := Prod.ext keys values
      subst heads
      refine congrArg (first :: ·) (ih restSorted othersSorted fun key => ?_)
      by_cases here : Named.name first.1 = Named.name key
      · have key_eq := Named.name_injective here
        subst key_eq
        rw [seek_eq_none_of_before _ _ beforeLeft, seek_eq_none_of_before _ _ beforeRight]
      · simpa [seek, here] using same key

end Table

structure Table (κ α : Type) [Named κ] where
  entries : List (κ × α)
  sorted : Table.Sorted entries
  deriving DecidableEq

namespace Table

variable {κ α β : Type} [Named κ]

def empty : Table κ α := ⟨[], List.Pairwise.nil⟩

instance : EmptyCollection (Table κ α) := ⟨empty⟩

instance : Inhabited (Table κ α) := ⟨empty⟩

def find? (table : Table κ α) (key : κ) : Option α := seek key table.entries

def contains (table : Table κ α) (key : κ) : Bool := (table.find? key).isSome

def insert (table : Table κ α) (key : κ) (value : α) : Table κ α :=
  ⟨put key value table.entries, sorted_put key value table.sorted⟩

def map (f : α → β) (table : Table κ α) : Table κ β :=
  ⟨table.entries.map fun entry => (entry.1, f entry.2), by
    simpa [Sorted, List.pairwise_map] using table.sorted⟩

/-- The table of a list of entries, in which a later entry replaces an earlier one. -/
def ofList (entries : List (κ × α)) : Table κ α :=
  entries.foldl (fun table entry => table.insert entry.1 entry.2) ∅

def keys (table : Table κ α) : List κ := table.entries.map (·.1)

def size (table : Table κ α) : Nat := table.entries.length

@[simp] theorem find?_empty (key : κ) : (∅ : Table κ α).find? key = none := rfl

@[simp] theorem find?_insert_self (table : Table κ α) (key : κ) (value : α) :
    (table.insert key value).find? key = some value := seek_put_self ..

@[simp] theorem find?_insert_of_ne (table : Table κ α) {key other : κ} (value : α)
    (different : other ≠ key) : (table.insert key value).find? other = table.find? other :=
  seek_put_of_ne value different _

theorem ext_find? {left right : Table κ α} (same : ∀ key, left.find? key = right.find? key) :
    left = right := by
  cases left with
  | mk leftEntries leftSorted =>
    cases right with
    | mk rightEntries rightSorted =>
      have equal := eq_of_seek_eq leftSorted rightSorted same
      subst equal
      rfl

end Table

end Casefile
