import Casefile.Proofs.Game.Edits
import Casefile.Proofs.Save.Outage
import Casefile.Save.Ledger

namespace Casefile

/-!
A ledger tells what a slot holds.

`Store.Follows` ties a store to the ledger of what it has tried to write: the slot holds the last
write that was accepted, the refused saves are counted, and the last save that was attempted is of
the state in memory.  While a slot works it accepts everything.
-/

variable {ledger : List Attempt}

theorem lastWrite_concat (ledger : List Attempt) (attempt : Attempt) :
    lastWrite (ledger ++ [attempt]) =
      if attempt.accepted then some attempt.write else lastWrite ledger := by
  cases accepted : attempt.accepted <;> simp [lastWrite, accepted]

namespace Slot

variable {slot first : Slot}

theorem isOk_save (slot : Slot) (state : GameState) :
    (slot.save state).1.isOk = !slot.failing := by
  cases failing : slot.failing <;> simp [save, failing, Except.isOk, Except.toBool]

theorem isOk_clear (slot : Slot) : slot.clear.1.isOk = !slot.failing := by
  cases failing : slot.failing <;> simp [clear, failing, Except.isOk, Except.toBool]

theorem failing_save (slot : Slot) (state : GameState) :
    (slot.save state).2.failing = slot.failing := by
  cases failing : slot.failing <;> simp [save, failing]

theorem failing_clear (slot : Slot) : slot.clear.2.failing = slot.failing := by
  cases failing : slot.failing <;> simp [clear, failing]

theorem holds_failing {write? : Option Write} (slot : Slot) (failing : Bool) :
    { slot with failing }.Holds first write? ↔ slot.Holds first write? := by
  rcases write? with _ | (_ | _) <;> exact Iff.rfl

theorem Holds.save (holds : slot.Holds first (lastWrite ledger)) (state : GameState) :
    (slot.save state).2.Holds first
      (lastWrite (ledger ++ [⟨.save state, (slot.save state).1.isOk⟩])) := by
  rw [lastWrite_concat, isOk_save]
  cases failing : slot.failing with
  | true => simpa [Slot.save, failing] using holds
  | false => simp [Slot.save, failing, Holds, state?, Wire.read_compact]

theorem Holds.clear (holds : slot.Holds first (lastWrite ledger)) :
    slot.clear.2.Holds first (lastWrite (ledger ++ [⟨.removal, slot.clear.1.isOk⟩])) := by
  rw [lastWrite_concat, isOk_clear]
  cases failing : slot.failing with
  | true => simpa [Slot.clear, failing] using holds
  | false => simp [Slot.clear, failing, Holds]

end Slot

namespace Store

variable {store : Store} {slot first : Slot}

theorem persist_memory (inMemory : store.vault = .memory slot) :
    store.persist =
      { store with
        vault := .memory (slot.save store.state).2
        failures := if slot.failing then store.failures + 1 else store.failures } := by
  cases failing : slot.failing <;> simp [persist, inMemory, Vault.save, Slot.save, failing]

structure Follows (store : Store) (first : Slot) (ledger : List Attempt) : Prop where
  held : ∃ slot, store.vault = .memory slot ∧ slot.Holds first (lastWrite ledger)
  counted : store.failures = ledger.countP Attempt.isRefusedSave
  current : ∀ last ∈ ledger.getLast?, ∀ state, last.write = .save state → state = store.state

theorem follows_resume (slot : Slot) : (resume (.memory slot)).Follows slot [] where
  held := ⟨slot, resume_vault _, rfl⟩
  counted := resume_failures _
  current := by simp

theorem Follows.persist {state : GameState} (follows : store.Follows first ledger) :
    ({ store with state } : Store).persist.Follows first
      (ledger ++ [⟨.save state, (store.vault.save state).1.isOk⟩]) := by
  obtain ⟨slot, inMemory, holds⟩ := follows.held
  have answered : (store.vault.save state).1 = (slot.save state).1 := by rw [inMemory]; rfl
  have persisted := @persist_memory { store with state } slot inMemory
  rw [persisted, answered]
  constructor
  · exact ⟨_, rfl, holds.save state⟩
  · rw [List.countP_append, ← follows.counted, Slot.isOk_save]
    cases failing : slot.failing <;> simp [Attempt.isRefusedSave]
  · simp

theorem Follows.commitAll (follows : store.Follows first ledger) (edits : List Edit) :
    (store.commitAll edits).Follows first (ledger ++ store.attempts edits) := by
  induction edits generalizing store ledger with
  | nil => simpa [attempts, Store.commitAll] using follows
  | cons edit edits ih =>
      by_cases applies : edit.applies store.state = true
      · have committed : store.commit edit =
            ({ store with state := edit.apply store.state } : Store).persist := by
          rw [commit, if_pos applies]
        have after : (store.commit edit).state = edit.apply store.state := by
          simp [committed]
        have next : (store.commit edit).Follows first (ledger ++
            [⟨.save (store.commit edit).state,
              (store.vault.save (store.commit edit).state).1.isOk⟩]) := by
          rw [after, committed]
          exact follows.persist
        have rest := ih next
        rw [List.append_assoc] at rest
        rw [attempts, if_pos applies]
        exact rest
      · have same : store.commit edit = store := by rw [commit, if_neg applies]
        have rest := ih follows
        simpa only [attempts, if_neg applies, Store.commitAll, List.foldl_cons, same] using rest

theorem Follows.reset (follows : store.Follows first ledger) :
    store.reset.Follows first (ledger ++ [⟨.removal, store.vault.clear.1.isOk⟩]) := by
  obtain ⟨slot, inMemory, holds⟩ := follows.held
  have cleared : store.vault.clear = (slot.clear.1, .memory slot.clear.2) := by rw [inMemory]; rfl
  rw [Store.reset, cleared]
  constructor
  · exact ⟨_, rfl, holds.clear⟩
  · rw [List.countP_append, ← follows.counted]
    simp [Attempt.isRefusedSave]
  · simp

theorem Follows.serve (follows : store.Follows first ledger) (request : Request) :
    (store.serve request).2.Follows first (ledger ++ store.requestAttempts request) := by
  rw [serve_store, requestAttempts]
  cases request.edit? with
  | some edit => exact follows.commitAll [edit]
  | none => exact follows.reset

theorem Follows.setFailing (follows : store.Follows first ledger) (failing : Bool) :
    (store.meet (.outage failing)).Follows first ledger := by
  obtain ⟨slot, inMemory, holds⟩ := follows.held
  exact ⟨⟨{ slot with failing }, by simp [meet, inMemory, Vault.setFailing],
    (Slot.holds_failing slot failing).mpr holds⟩, follows.counted, follows.current⟩

/-! A store stays durable while every attempt is accepted. -/

theorem eq_ok_of_isOk {result : Except VaultError Unit} (success : result.isOk = true) :
    result = .ok () := by
  cases result with
  | ok => rfl
  | error reason => exact absurd success Bool.false_ne_true

/-- The first edit of several whose attempts are all accepted. -/
theorem durable_first {edit : Edit} {edits : List Edit} (durable : store.Durable)
    (accepted : ∀ attempt ∈ store.attempts (edit :: edits), attempt.accepted = true) :
    (store.commit edit).Durable ∧
      ∀ attempt ∈ (store.commit edit).attempts edits, attempt.accepted = true := by
  rw [attempts] at accepted
  by_cases applies : edit.applies store.state = true
  · rw [if_pos applies, List.forall_mem_cons, state_commit, Edit.perform, if_pos applies]
      at accepted
    exact ⟨durable_commit durable fun _ => eq_ok_of_isOk accepted.1, accepted.2⟩
  · rw [if_neg applies] at accepted
    exact ⟨durable_commit durable fun applied => absurd applied applies, accepted⟩

theorem durable_commitAll {edits : List Edit} (durable : store.Durable)
    (accepted : ∀ attempt ∈ store.attempts edits, attempt.accepted = true) :
    (store.commitAll edits).Durable := by
  induction edits generalizing store with
  | nil => exact durable
  | cons edit edits ih =>
      obtain ⟨committed, later⟩ := durable_first durable accepted
      exact ih committed later

/-! While the slot works, every attempt is accepted and the slot goes on working. -/

def Works (store : Store) : Prop := ∃ slot, store.vault = .memory slot ∧ slot.failing = false

theorem works_resume (works : slot.failing = false) : (resume (.memory slot)).Works :=
  ⟨slot, resume_vault _, works⟩

theorem Works.commit (works : store.Works) (edit : Edit) : (store.commit edit).Works := by
  obtain ⟨slot, inMemory, unfailing⟩ := works
  unfold Store.commit
  split
  · have persisted := @persist_memory { store with state := edit.apply store.state } slot inMemory
    rw [persisted]
    exact ⟨_, rfl, (slot.failing_save _).trans unfailing⟩
  · exact ⟨slot, inMemory, unfailing⟩

theorem Works.commitAll (works : store.Works) (edits : List Edit) :
    (store.commitAll edits).Works ∧ ∀ attempt ∈ store.attempts edits, attempt.accepted = true := by
  induction edits generalizing store with
  | nil => exact ⟨works, List.forall_mem_nil _⟩
  | cons edit edits ih =>
      obtain ⟨still, accepted⟩ := ih (works.commit edit)
      refine ⟨still, ?_⟩
      unfold attempts
      dsimp only
      split
      · obtain ⟨slot, inMemory, unfailing⟩ := works
        refine List.forall_mem_cons.mpr ⟨?_, accepted⟩
        simp [inMemory, Vault.save, Slot.isOk_save, unfailing]
      · exact accepted

theorem Works.serve (works : store.Works) (request : Request) :
    (store.serve request).2.Works ∧
      ∀ attempt ∈ store.requestAttempts request, attempt.accepted = true := by
  rw [serve_store, requestAttempts]
  cases request.edit? with
  | some edit => exact works.commitAll [edit]
  | none =>
      obtain ⟨slot, inMemory, unfailing⟩ := works
      constructor
      · exact ⟨slot.clear.2, by simp [Store.reset, inMemory, Vault.clear],
          slot.failing_clear.trans unfailing⟩
      · simp [inMemory, Vault.clear, Slot.isOk_clear, unfailing]

end Store

end Casefile
