import Casefile.Data.Table

namespace Casefile.Table

variable {κ α : Type} [Named κ] {table : Table κ α}

/-! What writing several entries leaves in a table, and what a list made of all entries holds for one
key. -/

theorem find?_insert [DecidableEq κ] (key other : κ) (value : α) :
    (table.insert key value).find? other =
      if other = key then some value else table.find? other := by
  by_cases same : other = key <;> simp [same]

theorem insert_insert (key : κ) (first second : α) :
    (table.insert key first).insert key second = table.insert key second := by
  apply ext_find?
  intro other
  by_cases same : other = key <;> simp [same]

theorem insert_comm (table : Table κ α) {key other : κ} (first second : α)
    (different : other ≠ key) :
    (table.insert key first).insert other second =
      (table.insert other second).insert key first := by
  apply ext_find?
  intro sought
  by_cases here : sought = key
  · subst here
    simp [different.symm]
  · by_cases there : sought = other
    · subst there
      simp [here]
    · simp [here, there]

theorem find?_foldl_insert {entries : List (κ × α)}
    (distinct : entries.Pairwise fun a b => Named.name a.1 ≠ Named.name b.1) (key : κ) :
    (entries.foldl (fun table entry => table.insert entry.1 entry.2) table).find? key =
      (seek key entries).or (table.find? key) := by
  induction entries generalizing table with
  | nil => rfl
  | cons entry entries ih =>
      obtain ⟨fresh, others⟩ := List.pairwise_cons.mp distinct
      rw [List.foldl_cons, ih others]
      by_cases here : Named.name entry.1 = Named.name key
      · have key_eq := Named.name_injective here
        subst key_eq
        have absent : seek entry.1 entries = none := by
          clear ih others distinct
          induction entries with
          | nil => rfl
          | cons second rest ih =>
              have different := Ne.symm (fresh second (by simp))
              simp only [seek, different, if_false]
              exact ih fun other member => fresh other (by simp [member])
        simp [seek, absent]
      · have different : key ≠ entry.1 := fun same => here (same ▸ rfl)
        simp [seek, here, different]

theorem ofList_entries (table : Table κ α) : ofList table.entries = table := by
  apply ext_find?
  intro key
  have distinct : table.entries.Pairwise fun a b => Named.name a.1 ≠ Named.name b.1 := by
    refine List.Pairwise.imp (fun before same => ?_) table.sorted
    rw [same] at before
    exact String.lt_irrefl _ before
  rw [ofList, find?_foldl_insert distinct, find?_empty, Option.or_none]
  rfl

theorem contains_insert [DecidableEq κ] (table : Table κ α) (key other : κ) (value : α) :
    (table.insert key value).contains other = (decide (other = key) || table.contains other) := by
  rw [contains, find?_insert]
  by_cases same : other = key <;> simp [same, contains]

theorem contains_ofList [DecidableEq κ] (entries : List (κ × α)) (key : κ) :
    (ofList entries).contains key = entries.any fun entry => key = entry.1 := by
  have past : ∀ table : Table κ α,
      (entries.foldl (fun table entry => table.insert entry.1 entry.2) table).contains key =
        (table.contains key || entries.any fun entry => key = entry.1) := by
    induction entries with
    | nil => simp
    | cons entry entries ih =>
        intro table
        rw [List.foldl_cons, ih, contains_insert, List.any_cons, ← Bool.or_assoc,
          Bool.or_comm (decide _)]
  exact past ∅

/-- Items that are made from entries and know their keys: those of one key are made from its
entry. -/
theorem filter_flatMap_entries {β : Type} [DecidableEq κ] (table : Table κ α) (key : κ)
    {make : κ × α → List β} {owner : β → κ}
    (owned : ∀ entry, ∀ item ∈ make entry, owner item = entry.1) :
    (table.entries.flatMap make).filter (owner · = key) =
      ((table.find? key).map fun value => make (key, value)).getD [] := by
  obtain ⟨entries, sorted⟩ := table
  show _ = ((seek key entries).map _).getD []
  induction entries with
  | nil => rfl
  | cons entry entries ih =>
      obtain ⟨before, rest⟩ := List.pairwise_cons.mp sorted
      rw [List.flatMap_cons, List.filter_append, ih rest, seek]
      by_cases here : Named.name entry.1 = Named.name key
      · obtain rfl := Named.name_injective here
        have absent : seek entry.1 entries = none := seek_eq_none_of_before _ _ before
        have kept : (make entry).filter (owner · = entry.1) = make entry :=
          List.filter_eq_self.mpr fun item member => by simp [owned entry item member]
        simp [absent, kept]
      · have different : entry.1 ≠ key := fun same => here (same ▸ rfl)
        have dropped : (make entry).filter (owner · = key) = [] :=
          List.filter_eq_nil_iff.mpr fun item member => by simp [owned entry item member, different]
        simp [here, dropped]

end Casefile.Table
