import Casefile.Game.Endurance
import Casefile.Proofs.Game.Record
import Casefile.Proofs.Save.Ledger

namespace Casefile

/-!
Failed saves never disturb play.

What an event comes to is decided by what is in memory, and no event looks at the vault.  A run with
outages therefore goes as the same run without them; what differs is what was written, and the
ledger tells that exactly.
-/

namespace Store

variable {store other : Store}

theorem serve_state (store : Store) (request : Request) :
    (store.serve request).2.state =
      match request.edit? with
      | some edit => edit.perform store.state
      | none => {} := by
  rw [serve_store]
  cases request.edit? with
  | some edit => exact state_commit store edit
  | none => rfl

theorem serve_answer_congr (same : other.state = store.state) (request : Request) :
    (other.serve request).1 = (store.serve request).1 := by
  cases request with
  | countFailure key => simp [serve, countFailure, state_commit, same]
  | progress key => simp [serve, progress, same]
  | advanceTurn turn => simp [serve, advanceTurn, same]
  | markRead contact => simp [serve, markRead, same]
  | clearFailures _ | lock _ _ | setShown _ _ | addMessage _ _ | reset => rfl

theorem serve_state_congr (same : other.state = store.state) (request : Request) :
    (other.serve request).2.state = (store.serve request).2.state := by
  rw [serve_state, serve_state, same]

end Store

namespace Play

variable {play other : Play} {event : Event} {slot : Slot}

/-- Two plays that differ in their vaults and in the failures counted alone. -/
structure SameInMemory (play other : Play) : Prop where
  story : other.story = play.story
  state : other.state = play.state
  picker : other.picker = play.picker
  now : other.now = play.now

theorem SameInMemory.verdict (same : play.SameInMemory other) (contact : ContactId)
    (line : String) : other.verdict contact line = play.verdict contact line := by
  rw [Play.verdict, same.story, same.picker, same.state, same.now, Play.verdict]

theorem SameInMemory.resolve (same : play.SameInMemory other) (contact : ContactId)
    (line : String) :
    (other.resolve contact line).1 = (play.resolve contact line).1 ∧
      (play.resolve contact line).2.SameInMemory (other.resolve contact line).2 := by
  have verdicts := same.verdict contact line
  refine ⟨congrArg Verdict.outcome verdicts, same.story, ?_, congrArg Verdict.picker verdicts,
    same.now⟩
  rw [state_resolve, state_resolve, verdicts, same.state]

theorem SameInMemory.meet (same : play.SameInMemory other) (calm : event.isOutage = false) :
    (other.meet event).1 = (play.meet event).1 ∧
      (play.meet event).2.SameInMemory (other.meet event).2 := by
  cases event with
  | request request =>
      have answers := Store.serve_answer_congr same.state request
      have states := Store.serve_state_congr same.state request
      exact ⟨by simp only [Play.meet, answers, states], same.story, states, same.picker, same.now⟩
  | move move =>
      cases move with
      | line contact text =>
          obtain ⟨outcomes, after⟩ := same.resolve contact text
          exact ⟨by simp only [Play.meet, outcomes, after.state], after⟩
      | clock now => exact ⟨rfl, same.story, same.state, same.picker, rfl⟩
  | outage failing => cases calm

theorem SameInMemory.outage (same : play.SameInMemory other) (failing : Bool) :
    (other.meet (.outage failing)).1 = none ∧
      play.SameInMemory (other.meet (.outage failing)).2 :=
  ⟨rfl, same.story, same.state, same.picker, same.now⟩

theorem SameInMemory.meetAll (same : play.SameInMemory other) (events : List Event) :
    (other.meetAll events).1 = (play.meetAll (events.filter (!·.isOutage))).1 ∧
      (play.meetAll (events.filter (!·.isOutage))).2.SameInMemory (other.meetAll events).2 := by
  induction events generalizing play other with
  | nil => exact ⟨rfl, same⟩
  | cons event events ih =>
      cases outage : event.isOutage with
      | true =>
          cases event with
          | outage failing => exact ih (same.outage failing).2
          | request _ | move _ => cases outage
      | false =>
          obtain ⟨reports, after⟩ := same.meet outage
          obtain ⟨others, later⟩ := ih after
          rw [List.filter_cons_of_pos (by simp [outage])]
          simp only [Play.meetAll, reports, others]
          exact ⟨trivial, later⟩

theorem follows_meetAll {first : Slot} {ledger : List Attempt}
    (follows : play.store.Follows first ledger) (events : List Event) :
    (play.meetAll events).2.store.Follows first (ledger ++ play.ledger events) := by
  induction events generalizing play ledger with
  | nil =>
      rw [Play.ledger, List.append_nil]
      exact follows
  | cons event events ih =>
      have next : (play.meet event).2.store.Follows first (ledger ++ play.eventAttempts event) := by
        cases event with
        | request request => exact follows.serve request
        | move move =>
            cases move with
            | line contact text => exact follows.commitAll _
            | clock now =>
                rw [eventAttempts, List.append_nil]
                exact follows
        | outage failing =>
            rw [eventAttempts, List.append_nil]
            exact follows.setFailing failing
      have later := ih next
      rw [List.append_assoc] at later
      exact later

theorem works_meetAll (works : play.store.Works) {events : List Event}
    (calm : ∀ event ∈ events, event.isOutage = false) :
    ∀ attempt ∈ play.ledger events, attempt.accepted = true := by
  induction events generalizing play with
  | nil => exact List.forall_mem_nil _
  | cons event events ih =>
      obtain ⟨calmNow, calmLater⟩ := List.forall_mem_cons.mp calm
      have next : (play.meet event).2.store.Works ∧
          ∀ attempt ∈ play.eventAttempts event, attempt.accepted = true := by
        cases event with
        | request request => exact works.serve request
        | move move =>
            cases move with
            | line contact text => exact works.commitAll _
            | clock now => exact ⟨works, List.forall_mem_nil _⟩
        | outage failing => cases calmNow
      exact List.forall_mem_append.mpr ⟨next.2, ih next.1 calmLater⟩

/-- Failed saves never disturb play.  A run in which the vault fails and works again, as it may
between any two events, reports the same results and states as the run without the outages, in which
everything is accepted.  The slot holds the last write that it accepted, which is all of the state
in memory when the last attempt was such a save, and the failures counted are the saves refused. -/
theorem outages_unnoticed (works : slot.failing = false)
    (opened : play.store = .resume (.memory slot)) (events : List Event) :
    let calm := events.filter (!·.isOutage)
    let later := (play.meetAll events).2
    let ledger := play.ledger events
    ((play.meetAll events).1 = (play.meetAll calm).1 ∧
      later.state = (play.meetAll calm).2.state ∧
      ∀ attempt ∈ play.ledger calm, attempt.accepted = true) ∧
    (∃ after, later.store.vault = .memory after ∧ after.Holds slot (lastWrite ledger) ∧
      ∀ state, ledger.getLast? = some ⟨.save state, true⟩ → after.state? = some later.state) ∧
    later.store.failures = ledger.countP Attempt.isRefusedSave := by
  intro calm later ledger
  obtain ⟨reports, after⟩ :=
    (show play.SameInMemory play from ⟨rfl, rfl, rfl, rfl⟩).meetAll events
  have follows : later.store.Follows slot ledger :=
    follows_meetAll (opened ▸ Store.follows_resume slot) events
  obtain ⟨kept, inMemory, holds⟩ := follows.held
  refine ⟨⟨reports, after.state, ?_⟩, ⟨kept, inMemory, holds, ?_⟩, follows.counted⟩
  · refine works_meetAll (opened ▸ Store.works_resume works) fun event member => ?_
    simpa using (List.mem_filter.mp member).2
  · intro state last
    have current := follows.current _ last state rfl
    have written : lastWrite ledger = some (.save state) := by
      obtain ⟨earlier, same⟩ := List.getLast?_eq_some_iff.mp last
      rw [same, lastWrite_concat]
      rfl
    rw [written] at holds
    exact holds.2.trans (congrArg some current)

def stormyPlay : Play where
  story := ({} : Story).withBundle ⟨"c1"⟩ { puzzles := [Puzzle.simple ⟨1⟩ ["luce"] "Fatto."] }
  store := .resume (.memory (.holding { turn := ⟨2⟩ }))
  picker := .first
  now := ⟨0⟩

/-- A wrong answer that is not saved, and a right one that is saved with it. -/
theorem outages_unnoticed_once_saved :
    let slot := Slot.holding { turn := ⟨2⟩ }
    let events := [.outage true, .move (.line ⟨"c1"⟩ "T1: ombra"), .outage false,
      .move (.line ⟨"c1"⟩ "T1: luce")]
    let later := (stormyPlay.meetAll events).2
    (slot.failing = false ∧ stormyPlay.store = .resume (.memory slot)) ∧
      (stormyPlay.meetAll events).1 =
        (stormyPlay.meetAll [.move (.line ⟨"c1"⟩ "T1: ombra"),
          .move (.line ⟨"c1"⟩ "T1: luce")]).1 ∧
      (∃ after, later.store.vault = .memory after ∧ after.state? = some later.state) ∧
      later.store.failures = 1 := by
  intro slot events later
  obtain ⟨⟨reports, _⟩, ⟨after, inMemory, _, current⟩, counted⟩ :=
    @outages_unnoticed stormyPlay slot rfl rfl events
  have last : (stormyPlay.ledger events).getLast? = some ⟨.save later.state, true⟩ := by
    decide +kernel
  have refused : (stormyPlay.ledger events).countP Attempt.isRefusedSave = 1 := by decide +kernel
  exact ⟨⟨rfl, rfl⟩, reports, ⟨after, inMemory, current _ last⟩, counted.trans refused⟩

end Play

end Casefile
