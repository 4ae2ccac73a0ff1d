import Casefile.Proofs.Game.Attempts
import Casefile.Proofs.Game.Filing
import Casefile.Proofs.Game.Unread

namespace Casefile

/-!
What is found after a line that was interrupted.

While the saves succeed, a restart finds what some first edits of the line have done.  The answer is
filed after the edits of the puzzle, and what is delivered after the answer, so that neither is
found without what comes before it.
-/

namespace Store

variable {store stop : Store} {edit : Edit} {edits : List Edit}

theorem mem_stops_cons (member : stop ∈ store.stops (edit :: edits)) :
    stop = store ∨ stop ∈ (store.commit edit).stops edits := by
  unfold stops at member
  dsimp only at member
  split at member
  · exact List.mem_cons.mp member
  · exact .inr member

/-- While the saves succeed, a restart at any stop finds the store as it was. -/
theorem durable_stops (durable : store.Durable)
    (accepted : ∀ attempt ∈ store.attempts edits, attempt.accepted = true) :
    ∀ stop ∈ store.stops edits, stop.Durable := by
  induction edits generalizing store with
  | nil => exact List.forall_mem_singleton.mpr durable
  | cons edit edits ih =>
      obtain ⟨committed, rest⟩ := durable_first durable accepted
      intro stop member
      rcases mem_stops_cons member with rfl | isLater
      · exact durable
      · exact ih committed rest stop isLater

theorem writes_stops (store : Store) (edits : List Edit) :
    (store.stops edits).map (fun stop => Write.save stop.state) =
      .save store.state :: (store.attempts edits).map Attempt.write := by
  induction edits generalizing store with
  | nil => rfl
  | cons edit edits ih =>
      by_cases applies : edit.applies store.state = true <;>
        simp [stops, attempts, Edit.perform, applies, ih]

theorem getLast?_stops (store : Store) (edits : List Edit) :
    (store.stops edits).getLast? = some (store.commitAll edits) := by
  induction edits generalizing store with
  | nil => rfl
  | cons edit edits ih =>
      have later : ((store.commit edit).stops edits).getLast? =
          some (store.commitAll (edit :: edits)) := ih (store.commit edit)
      unfold stops
      dsimp only
      split
      · rw [List.getLast?_cons, later, Option.getD_some]
      · exact later

theorem state_of_mem_stops (member : stop ∈ store.stops edits) :
    ∃ made, made <+: edits ∧ stop.state = store.state.performAll made := by
  induction edits generalizing store with
  | nil =>
      obtain rfl := List.mem_singleton.mp member
      exact ⟨[], List.prefix_rfl, rfl⟩
  | cons edit edits ih =>
      rcases mem_stops_cons member with rfl | isLater
      · exact ⟨[], List.nil_prefix, rfl⟩
      · obtain ⟨made, early, reached⟩ := ih isLater
        rw [state_commit] at reached
        exact ⟨edit :: made, (List.prefix_cons_inj edit).mpr early, reached⟩

theorem advances_stops {line : Submission} (made : ∀ edit ∈ edits, edit.MadeBy line) :
    ((store.stops edits).map state).Pairwise (GameState.Advances line) := by
  induction edits generalizing store with
  | nil => exact List.pairwise_singleton ..
  | cons edit edits ih =>
      obtain ⟨first, rest⟩ := List.forall_mem_cons.mp made
      have later : (((store.commit edit).stops edits).map state).Pairwise
          (GameState.Advances line) := ih rest
      unfold stops
      dsimp only
      split
      · -- A later stop is reached from the first by the edits up to it, so it is compared directly.
        refine List.pairwise_cons.mpr ⟨?_, later⟩
        rintro _ member
        obtain ⟨stop, isLater, rfl⟩ := List.mem_map.mp member
        obtain ⟨front, early, reached⟩ := state_of_mem_stops isLater
        have onward := GameState.advances_performAll
          (fun edit member => rest edit (early.subset member)) (edit.perform store.state)
        rw [reached, state_commit]
        exact (first.advances store.state).trans onward
      · exact later

end Store

/-! The wrong answers that are left. -/

namespace Puzzle

variable {puzzle : Puzzle} {state : GameState} {key : StatusKey} {progress : Progress}
  {now : Instant} {picker : Picker} {message : String} {verdict : Verdict} {made : List Edit}

theorem triesLeft_eq_one_iff (puzzle : Puzzle) (progress : Progress) :
    puzzle.triesLeft progress = 1 ↔
      puzzle.attemptLimit.toNat ≤ progress.failedAttempts.toNat + 1 := by
  unfold triesLeft
  omega

/-- A wrong answer to an open puzzle uses up a try, and with the last one the puzzle locks. -/
theorem triesLeft_of_wrong (isOpen : puzzle.isOpen (state.progressOf key) now = true)
    (wrong : puzzle.misses message = true)
    (ruling : puzzle.Ruling key (state.progressOf key) now picker message verdict) :
    if puzzle.triesLeft (state.progressOf key) = 1 then ∃ text, verdict.outcome = .locked text
    else (∃ text, verdict.outcome = .fail text) ∧
      puzzle.triesLeft ((state.performAll verdict.edits).progressOf key) + 1 =
        puzzle.triesLeft (state.progressOf key) := by
  have outcome := outcome_of_wrong isOpen wrong ruling
  have count := attempts_of_ruling ruling
  by_cases last : puzzle.triesLeft (state.progressOf key) = 1
  · rw [if_pos ((triesLeft_eq_one_iff ..).mp last)] at outcome
    rw [if_pos last]
    exact outcome
  · have within := mt (triesLeft_eq_one_iff ..).mpr last
    rw [if_neg within] at outcome
    obtain ⟨text, fails⟩ := outcome
    rw [fails, isOpen, wrong] at count
    rw [if_neg last]
    refine ⟨⟨text, fails⟩, ?_⟩
    have counted : ((state.performAll verdict.edits).progressOf key).failedAttempts.toNat =
      (state.progressOf key).failedAttempts.toNat + 1 := count
    unfold triesLeft
    omega

theorem triesLeft_failedOnce_le (puzzle : Puzzle) (progress : Progress) :
    puzzle.triesLeft progress.failedOnce ≤ puzzle.triesLeft progress := by
  have bound := progress.failedAttempts.toNat_lt_size
  have size : UInt32.size = 4294967296 := rfl
  rw [triesLeft, triesLeft, Progress.toNat_failedOnce]
  omega

/-- Whatever part of a ruling was saved, no more tries are left than before, unless the puzzle was
solved or the new lock was saved. -/
theorem triesLeft_of_ruling
    (ruling : puzzle.Ruling key (state.progressOf key) now picker message verdict)
    (early : made <+: verdict.edits) :
    puzzle.triesLeft ((state.performAll made).progressOf key) ≤
        puzzle.triesLeft (state.progressOf key) ∨
      verdict.outcome.isSolution = true ∨
      (∃ text, verdict.outcome = .locked text) ∧
        (state.performAll made).progressOf key =
          (state.progressOf key).lockedUntil (puzzle.lockDeadline now) := by
  have counted : puzzle.triesLeft ((state.performAll [.countFailure key]).progressOf key) ≤
      puzzle.triesLeft (state.progressOf key) := by
    simpa using puzzle.triesLeft_failedOnce_le _
  cases ruling with
  | asked question pending =>
      rcases List.prefix_cons_iff.mp early with rfl | ⟨rest, rfl, nothing⟩
      · exact .inl (Nat.le_refl _)
      · rw [List.prefix_nil.mp nothing]
        exact .inl (by simp [triesLeft, Progress.withShown])
  | barred asked locked =>
      rw [List.prefix_nil.mp early]
      exact .inl (Nat.le_refl _)
  | solved isOpen solves => exact .inr (.inl puzzle.isSolution_solvedOutcome)
  | hinted isOpen unsolved hint near =>
      rw [List.prefix_nil.mp early]
      exact .inl (Nat.le_refl _)
  | failed isOpen wrong within =>
      rcases List.prefix_cons_iff.mp early with rfl | ⟨rest, rfl, nothing⟩
      · exact .inl (Nat.le_refl _)
      · rw [List.prefix_nil.mp nothing]
        exact .inl counted
  | escalated isOpen wrong reached after picked =>
      rcases List.prefix_cons_iff.mp early with rfl | ⟨rest, rfl, lock⟩
      · exact .inl (Nat.le_refl _)
      · rcases List.prefix_cons_iff.mp lock with rfl | ⟨rest, rfl, nothing⟩
        -- The count was saved and the lock was not: the next wrong answer locks, as this one did.
        · exact .inl counted
        · rw [List.prefix_nil.mp nothing]
          exact .inr (.inr ⟨⟨_, rfl⟩, GameState.progressOf_escalation _⟩)

end Puzzle

namespace Session

variable {session : Session} {line : Submission}

/-- The answer to a line is found in a state. -/
def Answered (session : Session) (line : Submission) (state : GameState) : Prop :=
  ∃ message ∈ state.saidSince session.store.state line.contact,
    message.Records .contact (session.send line).1.text line.sentAt true

/-- What a line delivers is found in a state. -/
def Announced (session : Session) (line : Submission) (delivery : Delivery) (state : GameState) :
    Prop :=
  ∃ message ∈ state.saidSince session.store.state delivery.contact,
    message.Records .contact delivery.message line.sentAt false

/-- What may be found when a line was interrupted, in the order in which it is saved. -/
structure SavesInOrder (session : Session) (line : Submission) (states : List GameState) :
    Prop where
  writes : states.map Write.save =
    .save session.store.state :: (session.attempts (.send line)).map Attempt.write
  last : states.getLast? = some (session.send line).2.store.state
  advances : states.Pairwise (GameState.Advances line)
  answered : ∀ state ∈ states, session.Answered line state →
    state.turn = (session.resolve line).2.store.state.turn ∧
      state.progress = (session.resolve line).2.store.state.progress
  announced : ∀ state ∈ states, ∀ delivery, (session.send line).1.delivery? = some delivery →
    session.Announced line delivery state → session.Answered line state
  tries : ∀ state ∈ states, ∀ command puzzle, Command.parse line.text = some command →
    session.story.puzzle? line.contact command.turn = some puzzle →
      let key := StatusKey.of line.contact command.turn
      puzzle.triesLeft (state.progressOf key) ≤
          puzzle.triesLeft (session.store.state.progressOf key) ∨
        (session.send line).1.isSolution = true ∨
        (∃ text, (session.send line).1 = .locked text) ∧
          state.progressOf key =
            (session.store.state.progressOf key).lockedUntil (puzzle.lockDeadline line.sentAt)
  wrong : ∀ command puzzle, Command.parse line.text = some command →
    session.story.puzzle? line.contact command.turn = some puzzle →
      let key := StatusKey.of line.contact command.turn
      let tries := puzzle.triesLeft (session.store.state.progressOf key)
      puzzle.isOpen (session.store.state.progressOf key) line.sentAt = true →
      puzzle.misses command.message = true →
        if tries = 1 then ∃ text, (session.send line).1 = .locked text
        else (∃ text, (session.send line).1 = .fail text) ∧
          puzzle.triesLeft ((session.send line).2.store.state.progressOf key) + 1 = tries

theorem hasContact_of_delivery {delivery : Delivery}
    (delivered : (session.send line).1.delivery? = some delivery) :
    session.story.hasContact line.contact = true := by
  cases known : session.story.hasContact line.contact with
  | true => rfl
  | false =>
      have unanswered : (session.send line).1 = .invalid ∨
        (session.send line).1 = .contactNotFound := (submit_unknown known).1
      rcases unanswered with same | same <;> rw [same] at delivered <;> cases delivered

theorem progressOf_send (session : Session) (line : Submission) (key : StatusKey) :
    (session.send line).2.store.state.progressOf key =
      (session.store.state.performAll (session.rulingEdits line)).progressOf key := by
  obtain ⟨asked, answered, announced, sends⟩ := session.exists_sends line
  obtain ⟨ruled, _, apart, all⟩ :=
    sends.withoutChats_of_early List.prefix_rfl session.store.state
  have ruledFirst : asked ++ session.rulingEdits line <+: session.edits line := by
    rw [sends.edits, List.append_assoc]
    exact List.prefix_append ..
  obtain rfl := all ruledFirst
  have sent : (session.send line).2.store.state =
      session.store.state.performAll (session.edits line) := Store.state_commitAll ..
  rw [sent]
  exact congrArg (·.progressOf key) apart

/-! What is found in a state that the first edits of a line lead to. -/

namespace Sends

variable {made asked answered announced : List Edit}

theorem saidSince_of_early (sends : session.Sends line asked answered announced)
    (early : made <+: session.edits line) (chat : ContactId) :
    (session.store.state.performAll made).saidSince session.store.state chat =
      made.filterMap (Edit.filed? chat) :=
  GameState.saidSince_performAll (fun edit member => sends.madeBy edit (early.subset member))
    session.store.state chat

theorem resolved_of_answered (sends : session.Sends line asked answered announced)
    (early : made <+: session.edits line)
    (found : session.Answered line (session.store.state.performAll made)) :
    (session.store.state.performAll made).turn = (session.resolve line).2.store.state.turn ∧
      (session.store.state.performAll made).progress =
        (session.resolve line).2.store.state.progress := by
  obtain ⟨message, isSaid, records⟩ := found
  rw [sends.saidSince_of_early early] at isSaid
  obtain ⟨ruled, _, apart, all⟩ := sends.withoutChats_of_early early session.store.state
  obtain rfl := all (sends.ruled_of_told early isSaid records.sender)
  have resolved : (session.resolve line).2.store.state = _ :=
    (session.play line.sentAt).state_resolve line.contact line.text
  have turn := congrArg GameState.turn apart
  have progress := congrArg GameState.progress apart
  rw [resolved]
  exact ⟨turn, progress⟩

theorem answered_of_announced (sends : session.Sends line asked answered announced)
    (early : made <+: session.edits line) {delivery : Delivery}
    (delivered : (session.send line).1.delivery? = some delivery)
    (found : session.Announced line delivery (session.store.state.performAll made)) :
    session.Answered line (session.store.state.performAll made) := by
  obtain ⟨message, isSaid, records⟩ := found
  rw [sends.saidSince_of_early early] at isSaid
  have before := sends.answered_of_unread early isSaid records.sender records.read
  obtain ⟨edit, isAnswered⟩ :=
    List.exists_mem_of_ne_nil _ (sends.answersKnown (hasContact_of_delivery delivered))
  obtain ⟨answer, rfl, answers⟩ := sends.answers edit isAnswered
  refine ⟨answer.filed, ?_, answers⟩
  rw [sends.saidSince_of_early early]
  exact List.mem_filterMap.mpr ⟨_, before.subset (List.mem_append_right _ isAnswered),
    Edit.filed?_addMessage.mpr ⟨rfl, rfl⟩⟩

end Sends

theorem savesInOrder_of_durable (durable : session.store.Durable)
    (accepted : ∀ attempt ∈ session.attempts (.send line), attempt.accepted = true) :
    session.SavesInOrder line (session.savedStates line) := by
  obtain ⟨asked, answered, announced, sends⟩ := session.exists_sends line
  have found : session.savedStates line =
      (session.store.stops (session.edits line)).map Store.state :=
    List.map_congr_left fun stop isStop =>
      congrArg Store.state (Store.durable_stops durable accepted stop isStop)
  have reached : ∀ state ∈ session.savedStates line, ∃ made, made <+: session.edits line ∧
      state = session.store.state.performAll made := by
    intro state member
    rw [found] at member
    obtain ⟨stop, isStop, rfl⟩ := List.mem_map.mp member
    exact Store.state_of_mem_stops isStop
  have outcome : (session.send line).1 = _ := session.exchange_outcome ..
  constructor
  case writes =>
    rw [found, List.map_map]
    exact Store.writes_stops ..
  case last =>
    rw [found, List.getLast?_map, Store.getLast?_stops]
    rfl
  case advances =>
    rw [found]
    exact Store.advances_stops sends.madeBy
  case answered =>
    intro state member isAnswered
    obtain ⟨made, early, rfl⟩ := reached state member
    exact sends.resolved_of_answered early isAnswered
  case announced =>
    intro state member delivery delivered isAnnounced
    obtain ⟨made, early, rfl⟩ := reached state member
    exact sends.answered_of_announced early delivered isAnnounced
  case tries =>
    intro state member command puzzle parsed has key
    obtain ⟨made, early, rfl⟩ := reached state member
    obtain ⟨ruled, first, apart, _⟩ := sends.withoutChats_of_early early session.store.state
    have progress : (session.store.state.performAll made).progressOf key =
        (session.store.state.performAll ruled).progressOf key := congrArg (·.progressOf key) apart
    rw [progress, outcome]
    exact Puzzle.triesLeft_of_ruling
      ((session.play line.sentAt).ruling_of_parse parsed has) first
  case wrong =>
    intro command puzzle parsed has key tries isOpen wrong
    rw [outcome, session.progressOf_send line key]
    exact Puzzle.triesLeft_of_wrong isOpen wrong
      ((session.play line.sentAt).ruling_of_parse parsed has)

/-- The saves of a line come in the order of what they are for.  While every save and removal
succeeds, restarts included, a program that is killed during a line goes on with one of the states
that the line has saved, or with the one before it.  From one to the next the chats grow at their
ends, the turn does not go back, and no other record changes.  An answer is found only with all that
the line did to turn and records, and an announcement only with the answer.  Nowhere are more wrong
answers left than before the line, unless it solved the puzzle or the new lock is found with it; and
a wrong answer uses up one of them, the last one with a lock. -/
theorem saves_in_order {vault : Vault} {activities : List Activity}
    (begun : session.store = .resume vault)
    (accepted : ∀ attempt ∈ session.ledger (activities ++ [.send line]), attempt.accepted = true) :
    let later := session.actAll activities
    later.SavesInOrder line (later.savedStates line) := by
  intro later
  rw [ledger_concat, List.forall_mem_append] at accepted
  have durable : later.store.Durable :=
    durable_actAll (begun ▸ Store.durable_resume vault) accepted.1
  exact savesInOrder_of_durable durable accepted.2

def cautiousPuzzle : Puzzle := { Puzzle.simple ⟨1⟩ ["luce"] "Fatto." with maxAttempts := 2 }

def cautiousSession : Session where
  story := ({} : Story).withBundle ⟨"c1"⟩ { puzzles := [cautiousPuzzle] }
  store := .resume (.memory {})
  picker := .first
  notifier := .silent
  ids := .ofSeed 0

/-- A wrong answer that locks: where its count was saved and its lock was not, one try is left. -/
theorem saves_in_order_last_try :
    let first := { sentAt := ⟨0⟩, contact := ⟨"c1"⟩, text := "T1: ombra" }
    let second := { sentAt := ⟨5⟩, contact := ⟨"c1"⟩, text := "T1: notte" }
    let later := cautiousSession.actAll [.send first]
    let key := StatusKey.of ⟨"c1"⟩ ⟨1⟩
    (∀ attempt ∈ cautiousSession.ledger ([.send first] ++ [.send second]),
      attempt.accepted = true) ∧
    (later.savedStates second).length = 5 ∧
    ∀ state ∈ later.savedStates second, (state.progressOf key).lockedUntil? = none →
      cautiousPuzzle.triesLeft (state.progressOf key) ≤ 1 := by
  intro first second later key
  have accepted : ∀ attempt ∈ cautiousSession.ledger ([.send first] ++ [.send second]),
      attempt.accepted = true := accepted_of_works (Store.works_resume rfl) _
  have saves : (later.savedStates second).length = 5 := by decide +kernel
  have parsed : Command.parse second.text = some { turn := ⟨1⟩, message := "notte" } := by
    decide +kernel
  have has : later.story.puzzle? second.contact ⟨1⟩ = some cautiousPuzzle := by decide +kernel
  have unsolved : (later.send second).1.isSolution = false := by decide +kernel
  have left : cautiousPuzzle.triesLeft (later.store.state.progressOf key) = 1 := by decide +kernel
  have begun : cautiousSession.store = .resume (.memory {}) := rfl
  have inOrder : later.SavesInOrder second (later.savedStates second) :=
    saves_in_order begun accepted
  refine ⟨accepted, saves, fun state member unlocked => ?_⟩
  rcases inOrder.tries state member _ _ parsed has with fewer | solved | ⟨_, locked⟩
  · exact left ▸ fewer
  · cases unsolved.symm.trans solved
  · cases unlocked.symm.trans (congrArg Progress.lockedUntil? locked)

end Session

end Casefile
