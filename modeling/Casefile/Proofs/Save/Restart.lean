import Casefile.Proofs.Save.Vault
import Casefile.Save.Request

namespace Casefile.Store

/-!
Restarts leave no trace.

A store is durable when opening its vault again gives the same store.  Opening makes a store
durable, a request that saves or removes all that it should keeps it durable, and so a run of such
requests has the same answers and the same end however often the store is opened again in between.
-/

variable {store : Store} {request : Request}

def Durable (store : Store) : Prop := resume store.vault = store

theorem resume_vault (vault : Vault) : (resume vault).vault = vault.load.2 := by
  unfold resume
  split
  next loaded => rw [loaded]
  next loaded => rw [loaded]

theorem resume_failures (vault : Vault) : (resume vault).failures = 0 := by
  unfold resume
  split <;> rfl

theorem resume_of_load {vault : Vault} {state : GameState}
    (loaded : vault.load = (.ok (some state), vault)) : resume vault = { state, vault } := by
  simp only [resume, loaded]

theorem resume_of_no_load {vault : Vault} (missing : ∀ state, vault.load.1 ≠ .ok (some state))
    (same : vault.load.2 = vault) : resume vault = { state := {}, vault } := by
  unfold resume
  split
  next state after loaded => exact absurd (congrArg Prod.fst loaded) (missing state)
  next after _ loaded => rw [← same, loaded]

theorem durable_resume (vault : Vault) : Durable (resume vault) := by
  unfold Durable
  rw [resume_vault, resume, vault.load_load]
  rfl

theorem serve_store (store : Store) (request : Request) :
    (store.serve request).2 =
      match request.edit? with
      | some edit => store.commit edit
      | none => store.reset := by
  cases request <;> rfl

theorem durable_commit {edit : Edit} (durable : store.Durable)
    (saved : edit.applies store.state = true →
      (store.vault.save (edit.apply store.state)).1 = .ok ()) :
    (store.commit edit).Durable := by
  unfold commit
  split
  next applies =>
    cases written : store.vault.save (edit.apply store.state) with
    | mk result vault =>
        have success : result = .ok () := by simpa [written] using saved applies
        subst result
        have unfailing : store.failures = 0 := durable ▸ resume_failures store.vault
        have reopened := resume_of_load (Vault.load_of_save written)
        simp only [persist, written, Durable, reopened, unfailing]
  next => exact durable

theorem durable_reset (durable : store.Durable) (cleared : store.vault.clear.1 = .ok ()) :
    store.reset.Durable := by
  have unfailing : store.failures = 0 := durable ▸ resume_failures store.vault
  have removed : store.vault.clear = (.ok (), store.vault.clear.2) := by rw [← cleared]
  obtain ⟨missing, same⟩ := Vault.load_of_clear removed
  unfold Durable reset
  rw [resume_of_no_load missing same, unfailing]

/-- A request that succeeds leaves a durable store. -/
theorem durable_serve (durable : store.Durable) (succeeds : store.succeeds request = true) :
    (store.serve request).2.Durable := by
  rw [serve_store]
  cases made : request.edit? with
  | none =>
      apply durable_reset durable
      cases cleared : store.vault.clear.1 with
      | ok => rfl
      | error reason => simp [Store.succeeds, attempt?, made, cleared] at succeeds
  | some edit =>
      apply durable_commit durable
      intro applies
      cases saved : (store.vault.save (edit.apply store.state)).1 with
      | ok => rfl
      | error reason => simp [Store.succeeds, attempt?, made, applies, saved] at succeeds

theorem durable_serveAll {requests : List Request} (durable : store.Durable)
    (succeed : store.allSucceed requests = true) : (store.serveAll requests).2.Durable := by
  induction requests generalizing store with
  | nil => exact durable
  | cons request requests ih =>
      obtain ⟨first, rest⟩ := Bool.and_eq_true_iff.mp succeed
      exact ih (durable_serve durable first) rest

theorem allSucceed_append {before after : List Request}
    (succeed : store.allSucceed (before ++ after) = true) : store.allSucceed before = true := by
  induction before generalizing store with
  | nil => rfl
  | cons request before ih =>
      obtain ⟨first, rest⟩ := Bool.and_eq_true_iff.mp succeed
      exact Bool.and_eq_true_iff.mpr ⟨first, ih rest⟩

theorem serveReopening_eq {happenings : List (Option Request)} (durable : store.Durable)
    (succeed : store.allSucceed (happenings.filterMap id) = true) :
    store.serveReopening happenings = store.serveAll (happenings.filterMap id) := by
  induction happenings generalizing store with
  | nil => rfl
  | cons happening happenings ih =>
      cases happening with
      | none =>
          rw [serveReopening, show resume store.vault = store from durable]
          exact ih durable succeed
      | some request =>
          obtain ⟨first, rest⟩ := Bool.and_eq_true_iff.mp succeed
          have continued := ih (durable_serve durable first) rest
          simp only [serveReopening, continued]
          rfl

/-- Restart transparency.  While everything that a run attempts to save or to remove is saved or
removed, opening the vault again after any request gives the store as it is in memory, and opening
it anywhere in the run changes neither an answer nor where the run ends. -/
theorem restart_transparent (vault : Vault) (happenings : List (Option Request))
    (succeed : (resume vault).allSucceed (happenings.filterMap id) = true) :
    (∀ before after, happenings.filterMap id = before ++ after →
      resume ((resume vault).serveAll before).2.vault = ((resume vault).serveAll before).2) ∧
    (resume vault).serveReopening happenings =
      (resume vault).serveAll (happenings.filterMap id) := by
  constructor
  · intro before after split
    rw [split] at succeed
    exact durable_serveAll (durable_resume vault) (allSucceed_append succeed)
  · exact serveReopening_eq (durable_resume vault) succeed

/-- A file that is first recovered from a backup, and then saved, removed and saved again. -/
theorem restart_transparent_recovered_file :
    let vault := Vault.file
      { root := .dir [("saves", .dir [("game.bak", .file .empty)])], cwd := [] }
      ⟨"/saves/game.json"⟩
    let happenings := [some (.countFailure ⟨"c1_1"⟩), none, some (.progress ⟨"c1_1"⟩),
      some (.advanceTurn ⟨2⟩), none, some .reset, none, some (.lock ⟨"c1_1"⟩ ⟨1000⟩)]
    (resume vault).allSucceed (happenings.filterMap id) = true ∧
      (resume vault).serveReopening happenings =
        (resume vault).serveAll (happenings.filterMap id) := by
  intro vault happenings
  have succeed : (resume vault).allSucceed (happenings.filterMap id) = true := by decide +kernel
  exact ⟨succeed, (restart_transparent vault happenings succeed).2⟩

end Casefile.Store
