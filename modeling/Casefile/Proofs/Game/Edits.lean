import Casefile.Proofs.Data.Table
import Casefile.Save.Store

namespace Casefile

/-!
What edits do to a state, and what committing them does to the state of a store.

An edit of one puzzle's record touches nothing but that record.  Edits that are made for different
puzzles commute.  Whether the saves succeed makes no difference to the state.
-/

namespace GameState

variable {state : GameState} {key other : StatusKey} {first second change : Progress → Progress}

theorem progress?_revise (state : GameState) (key other : StatusKey)
    (change : Progress → Progress) :
    (state.revise key change).progress? other =
      if other = key then some (change (state.progressOf key)) else state.progress? other :=
  Table.find?_insert key other _

@[simp] theorem progressOf_revise_self : (state.revise key change).progressOf key =
    change (state.progressOf key) := by
  rw [progressOf, progress?_revise, if_pos rfl, Option.getD_some]

theorem revise_revise : (state.revise key first).revise key second =
    state.revise key (second ∘ first) := by
  have after : (state.revise key first).progressOf key = first (state.progressOf key) :=
    progressOf_revise_self
  rw [revise, after]
  simp only [revise, Table.insert_insert, Function.comp]

@[simp] theorem progressOf_revise_of_ne (different : other ≠ key) :
    (state.revise key change).progressOf other = state.progressOf other := by
  rw [progressOf, progress?_revise, if_neg different, progressOf]

@[simp] theorem progressOf_withTurn (state : GameState) (turn : Turn) (key : StatusKey) :
    ({ state with turn } : GameState).progressOf key = state.progressOf key := rfl

theorem revise_comm (different : other ≠ key) :
    (state.revise key first).revise other second =
      (state.revise other second).revise key first := by
  have here : (state.revise other second).progressOf key = state.progressOf key :=
    progressOf_revise_of_ne different.symm
  have there : (state.revise key first).progressOf other = state.progressOf other :=
    progressOf_revise_of_ne different
  rw [revise, there, revise.eq_def (state.revise other second), here]
  simp only [revise, Table.insert_comm _ _ _ different]

end GameState

theorem Turn.later_eq_max (first second : Turn) :
    (if first < second then second else first) = ⟨max first.number second.number⟩ := by
  have greatest : max first.number second.number =
      if first.number ≤ second.number then second.number else first.number := rfl
  by_cases earlier : first.number < second.number
  · have later : first < second := earlier
    rw [if_pos later, greatest, if_pos (UInt32.le_of_lt earlier)]
  · have notLater : ¬ first < second := earlier
    rw [if_neg notLater, greatest]
    by_cases equal : first.number ≤ second.number
    · rw [if_pos equal, UInt32.le_antisymm (UInt32.not_lt.mp earlier) equal]
    · rw [if_neg equal]

theorem Turn.max_right_comm (first second third : Turn) :
    max (max first.number second.number) third.number =
      max (max first.number third.number) second.number := by
  have toNat_max : ∀ a b : UInt32, (max a b).toNat = max a.toNat b.toNat := by
    intro a b
    have greatest : max a b = if a ≤ b then b else a := rfl
    rw [greatest, Nat.max_def]
    simp only [UInt32.le_iff_toNat_le]
    split <;> rfl
  apply UInt32.toNat.inj
  simp only [toNat_max]
  omega

namespace Edit

variable {first second edit : Edit} {edits others : List Edit} {key other : StatusKey}
  {state : GameState}

/-- An edit that a message to a puzzle makes: it changes the record of the puzzle, or it moves the
turn forward. -/
inductive MadeFor (key : StatusKey) (edit : Edit) : Prop where
  | record (change : Progress → Progress)
    (revises : ∀ state, edit.perform state = state.revise key change)
  | turn (turn : Turn) (advances : edit = .advance turn)

theorem perform_advance (state : GameState) (turn : Turn) :
    (Edit.advance turn).perform state =
      { state with turn := ⟨max state.turn.number turn.number⟩ } := by
  rw [← Turn.later_eq_max]
  by_cases later : state.turn < turn
  · simp [perform, applies, apply, later]
  · simp [perform, applies, later]

theorem perform_comm (here : first.MadeFor key) (there : second.MadeFor other)
    (different : other ≠ key) (state : GameState) :
    second.perform (first.perform state) = first.perform (second.perform state) := by
  rcases here with ⟨change, revises⟩ | ⟨turn, rfl⟩ <;>
    rcases there with ⟨change', revises'⟩ | ⟨turn', rfl⟩
  · simp only [revises, revises', GameState.revise_comm different]
  · simp only [revises, perform_advance]
    rfl
  · simp only [revises', perform_advance]
    rfl
  · simp only [perform_advance, Turn.max_right_comm]

theorem performAll_comm (here : ∀ edit ∈ edits, edit.MadeFor key)
    (there : ∀ edit ∈ others, edit.MadeFor other) (different : other ≠ key) (state : GameState) :
    (state.performAll edits).performAll others = (state.performAll others).performAll edits := by
  have past : ∀ edit : Edit, edit.MadeFor key → ∀ state : GameState,
      (edit.perform state).performAll others = edit.perform (state.performAll others) := by
    intro edit made
    induction others with
    | nil => exact fun _ => rfl
    | cons next others ih =>
        obtain ⟨first, rest⟩ := List.forall_mem_cons.mp there
        intro state
        have swapped := perform_comm made first different state
        have moved := ih rest (next.perform state)
        rw [← swapped] at moved
        exact moved
  induction edits generalizing state with
  | nil => rfl
  | cons edit edits ih =>
      obtain ⟨first, rest⟩ := List.forall_mem_cons.mp here
      have swapped := ih rest (edit.perform state)
      rw [past edit first] at swapped
      exact swapped

end Edit

namespace Store

variable {store : Store} {edit : Edit} {edits : List Edit}

@[simp] theorem state_persist (store : Store) : store.persist.state = store.state := by
  unfold persist
  split <;> rfl

@[simp] theorem state_commit (store : Store) (edit : Edit) :
    (store.commit edit).state = edit.perform store.state := by
  unfold commit Edit.perform
  split
  · exact state_persist _
  · rfl

@[simp] theorem state_commitAll (store : Store) (edits : List Edit) :
    (store.commitAll edits).state = store.state.performAll edits := by
  induction edits generalizing store with
  | nil => rfl
  | cons edit edits ih =>
      have next := ih (store.commit edit)
      rw [state_commit] at next
      exact next

end Store

end Casefile
