import Casefile.Proofs.Save.Restart
import Casefile.Save.Outage

namespace Casefile

/-!
What a count of no failures says about the saved copy.

A store that has counted no failure finds its state again when its vault is opened anew, unless it
owes a removal.  Then it holds a new game, while the vault still holds what was to be removed.
-/

namespace Vault

variable {vault after : Vault} {state : GameState}

theorem setFailing_setFailing (vault : Vault) (first second : Bool) :
    (vault.setFailing first).setFailing second = vault.setFailing second := by
  cases vault <;> rfl

theorem setFailing_false (works : vault.isFailing = false) : vault.setFailing false = vault := by
  cases vault with
  | memory slot =>
      obtain ⟨saved?, saves, failing⟩ := slot
      exact works ▸ rfl
  | file disk path => rfl

theorem isFailing_of_save (saved : vault.save state = (.ok (), after)) :
    after.isFailing = false := by
  cases vault with
  | memory slot =>
      cases failing : slot.failing with
      | true => simp [save, Slot.save, failing] at saved
      | false =>
          simp only [save, Slot.save, failing, Bool.false_eq_true, if_false] at saved
          cases saved
          rfl
  | file disk path =>
      cases written : disk.saveGame path state with
      | mk result left =>
          simp only [save, written] at saved
          cases saved
          rfl

theorem isFailing_of_clear (cleared : vault.clear = (.ok (), after)) :
    after.isFailing = false := by
  cases vault with
  | memory slot =>
      cases failing : slot.failing with
      | true => simp [clear, Slot.clear, failing] at cleared
      | false =>
          simp only [clear, Slot.clear, failing, Bool.false_eq_true, if_false] at cleared
          cases cleared
          rfl
  | file disk path =>
      cases removed : disk.clearGame path with
      | mk result left =>
          simp only [clear, removed] at cleared
          cases cleared
          rfl

theorem isFailing_load (vault : Vault) : vault.load.2.isFailing = vault.isFailing := by
  cases vault <;> rfl

end Vault

namespace Store

variable {store : Store} {owed : Bool}

/-- What a store that has counted no failure keeps true while its vault fails and works again. -/
def Accounted (store : Store) (owed : Bool) : Prop :=
  store.failures = 0 →
    if owed then store.state = {}
    else (resume (store.vault.setFailing false)).state = store.state

theorem accounted_of_durable (durable : store.Durable) (works : store.vault.isFailing = false) :
    store.Accounted false := by
  intro _
  rw [Vault.setFailing_false works, show resume store.vault = store from durable]
  rfl

theorem Accounted.outage (accounted : store.Accounted owed) (failing : Bool) :
    (store.meet (.outage failing)).Accounted owed := by
  intro unfailing
  have before := accounted unfailing
  simpa only [meet, Vault.setFailing_setFailing] using before

theorem accounted_commit_of_save {edit : Edit} (applies : edit.applies store.state = true)
    (saved : (store.vault.save (edit.apply store.state)).1 = .ok ()) :
    (store.commit edit).Accounted false := by
  cases written : store.vault.save (edit.apply store.state) with
  | mk result vault =>
      rw [written] at saved
      subst saved
      intro _
      have works := Vault.setFailing_false (Vault.isFailing_of_save written)
      have reopened := resume_of_load (Vault.load_of_save written)
      simp [Store.commit, applies, persist, written, works, reopened]

/-- A save that was refused is counted, so that nothing is promised any more. -/
theorem accounted_commit_of_refusal {edit : Edit} {reason : VaultError}
    (applies : edit.applies store.state = true)
    (refused : (store.vault.save (edit.apply store.state)).1 = .error reason) (owed : Bool) :
    (store.commit edit).Accounted owed := by
  intro unfailing
  cases written : store.vault.save (edit.apply store.state) with
  | mk result vault =>
      rw [written] at refused
      subst refused
      simp [Store.commit, applies, persist, written] at unfailing

theorem accounted_reset_of_clear (cleared : store.vault.clear.1 = .ok ()) :
    store.reset.Accounted false := by
  have removed : store.vault.clear = (.ok (), store.vault.clear.2) := by rw [← cleared]
  obtain ⟨missing, same⟩ := Vault.load_of_clear removed
  intro _
  simp [reset, Vault.setFailing_false (Vault.isFailing_of_clear removed),
    resume_of_no_load missing same]

theorem accounted_reset_owed (store : Store) : store.reset.Accounted true := fun _ => rfl

theorem Accounted.serve (accounted : store.Accounted owed) (request : Request) :
    (store.meet (.request request)).Accounted (store.owesAfter owed (.request request)) := by
  rw [meet, serve_store, owesAfter, attempt?]
  cases made : request.edit? with
  | none =>
      cases cleared : store.vault.clear.1 with
      | ok => exact accounted_reset_of_clear cleared
      | error reason => simpa using store.accounted_reset_owed
  | some edit =>
      by_cases applies : edit.applies store.state = true
      · cases saved : (store.vault.save (edit.apply store.state)).1 with
        | ok => simpa [applies, saved] using accounted_commit_of_save applies saved
        | error reason =>
            simpa [applies, saved] using accounted_commit_of_refusal applies saved owed
      · simpa [applies, Store.commit] using accounted

theorem Accounted.meet (accounted : store.Accounted owed) (incident : Incident) :
    (store.meet incident).Accounted (store.owesAfter owed incident) := by
  cases incident with
  | request request => exact accounted.serve request
  | outage failing => exact accounted.outage failing

theorem Accounted.meetAll (accounted : store.Accounted owed) (incidents : List Incident) :
    (store.meetAll incidents).Accounted (store.owesRemoval owed incidents) := by
  induction incidents generalizing store owed with
  | nil => exact accounted
  | cons incident incidents ih => exact ih (accounted.meet incident)

/-- While no failure is counted and the vault works, opening it again gives the state in memory.
The one exception is a removal that is owed, after which the state in memory is a new game. -/
theorem clean_count_durable {vault : Vault} {incidents : List Incident}
    (works : vault.isFailing = false)
    (clean : ((resume vault).meetAll incidents).failures = 0)
    (mended : ((resume vault).meetAll incidents).vault.isFailing = false) :
    let store := (resume vault).meetAll incidents
    (resume store.vault).state = store.state ∨
      (resume vault).owesRemoval false incidents = true ∧ store.state = {} := by
  intro store
  have opened : (resume vault).vault.isFailing = false := by
    rw [resume_vault, Vault.isFailing_load, works]
  have begun := accounted_of_durable (durable_resume vault) opened
  have accounted := begun.meetAll incidents clean
  cases owed : (resume vault).owesRemoval false incidents with
  | true => exact .inr ⟨rfl, by simpa [owed] using accounted⟩
  | false =>
      rw [owed, Vault.setFailing_false mended] at accounted
      exact .inl (by simpa using accounted)

/-- A removal that is refused, and made up for by the next save. -/
theorem clean_count_durable_after_refusal :
    let vault := Vault.memory (.holding { turn := ⟨7⟩ })
    let incidents := [.outage true, .request .reset, .request (.markRead ⟨"c1"⟩), .outage false,
      .request (.countFailure ⟨"c1_1"⟩)]
    let store := (resume vault).meetAll incidents
    (vault.isFailing = false ∧ store.failures = 0 ∧ store.vault.isFailing = false) ∧
      ((resume store.vault).state = store.state ∨
        (resume vault).owesRemoval false incidents = true ∧ store.state = {}) := by
  intro vault incidents store
  have works : vault.isFailing = false := by decide +kernel
  have clean : store.failures = 0 := by decide +kernel
  have mended : store.vault.isFailing = false := by decide +kernel
  exact ⟨⟨works, clean, mended⟩, clean_count_durable works clean mended⟩

/-- A removal that is refused and not made up for.  No failure was counted and the vault works, but
opening it again brings the old game back. -/
theorem refused_removal_uncounted :
    let vault := Vault.memory (.holding { turn := ⟨7⟩ })
    let store := (resume vault).meetAll [.outage true, .request .reset, .outage false]
    vault.isFailing = false ∧ store.failures = 0 ∧ store.vault.isFailing = false ∧
      (resume store.vault).state ≠ store.state := by
  decide +kernel

end Store

end Casefile
