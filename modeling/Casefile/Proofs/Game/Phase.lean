import Casefile.Proofs.Game.Lockout
import Casefile.Proofs.Game.Question
import Casefile.Save.Ledger

namespace Casefile

/-!
The phase of a puzzle foretells what becomes of a line for it.

A phase is read off the record, and the resolver reads the same record gate by gate.  Here the gates
are found again in the phase, one by one: a question that is pending, a lock that holds, and an open
puzzle, whose message is judged.
-/

theorem Progress.isLockedAt_iff {progress : Progress} {now : Instant} :
    progress.isLockedAt now = true ↔
      ∃ deadline, progress.lockedUntil? = some deadline ∧ now < deadline := by
  unfold isLockedAt
  cases progress.lockedUntil? <;> simp

theorem Outcome.isPreQuestion_iff {outcome : Outcome} :
    outcome.isPreQuestion = true ↔ ∃ question, outcome = .preQuestion question := by
  cases outcome <;> simp [isPreQuestion]

/-- An outcome that the message itself has.  A lock is one when it comes of a wrong answer, and then
the state in which that answer is counted was to be saved. -/
def Outcome.Judges (counted : GameState) (saves : List Attempt) : Outcome → Prop
  | .success _ | .configError _ | .hint _ | .fail _ => True
  | .locked _ => ∃ accepted, ⟨.save counted, accepted⟩ ∈ saves
  | _ => False

theorem Store.attempts_countFailure (store : Store) (key : StatusKey) (edits : List Edit) :
    ∃ accepted rest, store.attempts (.countFailure key :: edits) =
      ⟨.save (store.state.revise key Progress.failedOnce), accepted⟩ :: rest := by
  have counted : (store.commit (.countFailure key)).state =
      store.state.revise key Progress.failedOnce := store.state_commit _
  have applies : (Edit.countFailure key).applies store.state = true := rfl
  rw [attempts, if_pos applies, counted]
  exact ⟨_, _, rfl⟩

namespace Puzzle

variable {puzzle : Puzzle} {key : StatusKey} {progress : Progress} {progress? : Option Progress}
  {now deadline : Instant} {picker : Picker} {message : String} {verdict : Verdict}

theorem isSome_pendingQuestion (puzzle : Puzzle) (progress : Progress) :
    (puzzle.pendingQuestion progress).isSome =
      (puzzle.preQuestion.isSome && !progress.preQuestionShown) := by
  cases shown : progress.preQuestionShown <;> simp [pendingQuestion, shown]

theorem gates (puzzle : Puzzle) (progress : Progress) (now : Instant) :
    (puzzle.pendingQuestion progress = none ∧ progress.isLockedAt now = true) ∨
      (puzzle.pendingQuestion progress).isSome = true ∨ puzzle.isOpen progress now = true := by
  rw [isOpen_iff]
  cases puzzle.pendingQuestion progress <;> cases progress.isLockedAt now <;> simp

/-! The gates in the phase. -/

theorem phase_some (puzzle : Puzzle) (progress : Progress) (now : Instant) :
    Phase.of (some progress) puzzle.preQuestion.isSome now =
      if (puzzle.pendingQuestion progress).isSome then .preQuestionPending
      else match progress.lockedUntil? with
        | some deadline => if now < deadline then .locked deadline else .active
        | none => .active := by
  rw [isSome_pendingQuestion]
  rfl

theorem phase_eq_locked_iff :
    Phase.of progress? puzzle.preQuestion.isSome now = .locked deadline ↔
      puzzle.pendingQuestion (progress?.getD {}) = none ∧
        (progress?.getD {}).lockedUntil? = some deadline ∧ now < deadline := by
  cases progress? with
  | none => simp [Phase.of]
  | some progress =>
      rw [phase_some, Option.getD_some]
      cases puzzle.pendingQuestion progress with
      | some question => simp
      | none =>
          cases progress.lockedUntil? with
          | none => simp
          | some unlock =>
              by_cases early : now < unlock
              · simp only [Option.isSome_none, Bool.false_eq_true, if_false, early, if_true,
                  Phase.locked.injEq, true_and, Option.some.injEq]
                exact ⟨fun same => ⟨same, same ▸ early⟩, And.left⟩
              · simp only [Option.isSome_none, Bool.false_eq_true, if_false, early, true_and,
                  Option.some.injEq, reduceCtorEq, false_iff]
                exact fun later => early (later.1 ▸ later.2)

theorem barred_iff_phase : (∃ deadline,
      Phase.of progress? puzzle.preQuestion.isSome now = .locked deadline) ↔
    puzzle.pendingQuestion (progress?.getD {}) = none ∧
      (progress?.getD {}).isLockedAt now = true := by
  simp only [phase_eq_locked_iff, Progress.isLockedAt_iff, exists_and_left]

theorem asks_iff_phase : (puzzle.pendingQuestion (progress?.getD {})).isSome = true ↔
    puzzle.preQuestion.isSome = true ∧
      (Phase.of progress? puzzle.preQuestion.isSome now = .fresh ∨
        Phase.of progress? puzzle.preQuestion.isSome now = .preQuestionPending) := by
  cases progress? with
  | none => simp [Phase.of, isSome_pendingQuestion]
  | some progress =>
      have asks := isSome_pendingQuestion puzzle progress
      rw [phase_some, Option.getD_some]
      cases pending : puzzle.pendingQuestion progress with
      | some question =>
          rw [pending, Option.isSome_some, eq_comm, Bool.and_eq_true] at asks
          simp [asks.1]
      | none =>
          cases progress.lockedUntil? with
          | none => simp
          | some unlock => by_cases early : now < unlock <;> simp [early]

theorem isOpen_iff_phase : puzzle.isOpen (progress?.getD {}) now = true ↔
    Phase.of progress? puzzle.preQuestion.isSome now = .active ∨
      Phase.of progress? puzzle.preQuestion.isSome now = .fresh ∧ puzzle.preQuestion = none := by
  cases progress? with
  | none => simp [Phase.of, isOpen, pendingQuestion, Progress.isLockedAt]
  | some progress =>
      rw [phase_some, Option.getD_some, isOpen]
      cases puzzle.pendingQuestion progress with
      | some question => simp
      | none =>
          cases locked : progress.lockedUntil? with
          | none => simp [Progress.isLockedAt, locked]
          | some unlock =>
              by_cases early : now < unlock <;> simp [Progress.isLockedAt, locked, early]

theorem phase_ne_pending (asked : puzzle.pendingQuestion (progress?.getD {}) = none) :
    Phase.of progress? puzzle.preQuestion.isSome now ≠ .preQuestionPending := by
  cases progress? with
  | none => simp [Phase.of]
  | some progress =>
      rw [Option.getD_some] at asked
      rw [phase_some, asked]
      cases progress.lockedUntil? with
      | none => simp
      | some unlock => by_cases early : now < unlock <;> simp [early]

/-! The gates in the outcome. -/

theorem barred_iff_outcome (store : Store)
    (ruling : puzzle.Ruling key progress now picker message verdict) :
    (∃ text, verdict.outcome = .locked text) ∧ store.attempts verdict.edits = [] ↔
      puzzle.pendingQuestion progress = none ∧ progress.isLockedAt now = true := by
  have closed (isOpen : puzzle.isOpen progress now = true) :
      ¬ (puzzle.pendingQuestion progress = none ∧ progress.isLockedAt now = true) := by
    rw [isOpen_iff] at isOpen
    simp [isOpen.2]
  cases ruling with
  | asked question pending => simp [pending]
  | barred asked locked => simp [asked, locked, Store.attempts]
  | solved isOpen solves =>
      rw [iff_false_right (closed isOpen)]
      exact fun barred => barred.1.elim puzzle.solvedOutcome_ne_locked
  | hinted isOpen unsolved hint near => simp [closed isOpen]
  | failed isOpen wrong within => simp [closed isOpen]
  | escalated isOpen wrong reached after picked =>
      obtain ⟨accepted, rest, saves⟩ := store.attempts_countFailure key
        [.lock key (puzzle.lockDeadline now)]
      simp [closed isOpen, saves]

theorem judges_iff_isOpen (store : Store)
    (ruling : puzzle.Ruling key progress now picker message verdict) :
    verdict.outcome.Judges (store.state.revise key Progress.failedOnce)
        (store.attempts verdict.edits) ↔ puzzle.isOpen progress now = true := by
  cases ruling with
  | asked question pending => simp [isOpen, pending, Outcome.Judges]
  | barred asked locked => simp [isOpen, locked, Outcome.Judges, Store.attempts]
  | solved isOpen solves =>
      rw [iff_true_right isOpen]
      rcases puzzle.solvedOutcome_cases with ⟨solved, success⟩ | ⟨text, incomplete⟩
      · rw [success]
        trivial
      · rw [incomplete]
        trivial
  | hinted isOpen unsolved hint near => exact iff_of_true trivial isOpen
  | failed isOpen wrong within => exact iff_of_true trivial isOpen
  | escalated isOpen wrong reached after picked =>
      obtain ⟨accepted, rest, saves⟩ := store.attempts_countFailure key
        [.lock key (puzzle.lockDeadline now)]
      refine iff_of_true ⟨accepted, ?_⟩ isOpen
      rw [saves]
      exact List.mem_cons_self

theorem receive_of_isOpen (isOpen : puzzle.isOpen progress now = true) :
    puzzle.receive key progress now picker message =
      puzzle.judge key progress now picker message := by
  obtain ⟨asked, unlocked⟩ := isOpen_iff.mp isOpen
  simp [receive, asked, unlocked]

end Puzzle

namespace Play

def phase (play : Play) (contact : ContactId) (turn : Turn) (puzzle : Puzzle) : Phase :=
  play.state.phase (.of contact turn) puzzle.preQuestion.isSome play.now

/-- The saves that a line attempts. -/
def saves (play : Play) (contact : ContactId) (line : String) : List Attempt :=
  play.store.attempts (play.verdict contact line).edits

def Judges (play : Play) (contact : ContactId) (turn : Turn) (line : String) : Prop :=
  (play.resolve contact line).1.Judges
    (play.state.revise (.of contact turn) Progress.failedOnce) (play.saves contact line)

/-- What the phase of a puzzle foretells of a line for it, and the phase after the line. -/
structure Foretold (play : Play) (contact : ContactId) (turn : Turn) (puzzle : Puzzle)
    (line message : String) : Prop where
  locked : (∃ deadline, play.phase contact turn puzzle = .locked deadline) ↔
    (∃ text, (play.resolve contact line).1 = .locked text) ∧ play.saves contact line = []
  asked : (∃ question, (play.resolve contact line).1 = .preQuestion question) ↔
    puzzle.preQuestion.isSome = true ∧ (play.phase contact turn puzzle = .fresh ∨
      play.phase contact turn puzzle = .preQuestionPending)
  judged : play.Judges contact turn line ↔ play.phase contact turn puzzle = .active ∨
    play.phase contact turn puzzle = .fresh ∧ puzzle.preQuestion = none
  complete : ((∃ text, (play.resolve contact line).1 = .locked text) ∧
    play.saves contact line = []) ∨
    (∃ question, (play.resolve contact line).1 = .preQuestion question) ∨
    play.Judges contact turn line
  evaluated : play.Judges contact turn line → play.verdict contact line =
    puzzle.judge (.of contact turn) (play.record contact turn) play.now play.picker message
  asksOnce : ∀ now, { (play.resolve contact line).2 with now }.phase contact turn puzzle ≠
    .preQuestionPending
  escalates : ∀ text, (play.resolve contact line).1 = .locked text →
    play.saves contact line ≠ [] → play.now.millis.toInt < Int64.maxValue.toInt →
      ∃ deadline, (play.resolve contact line).2.phase contact turn puzzle = .locked deadline ∧
        deadline.millis.toInt =
          min (play.now.millis.toInt + puzzle.penaltyMillis.toInt) Int64.maxValue.toInt

variable {play : Play} {contact : ContactId} {turn : Turn} {puzzle : Puzzle}
  {line message text : String}

theorem asked_after_line (has : play.story.puzzle? contact turn = some puzzle)
    (said : (Move.line contact line).message? contact turn = some message) :
    puzzle.pendingQuestion ((play.resolve contact line).2.record contact turn) = none := by
  rw [record, state_resolve]
  exact Puzzle.asked_of_ruling (ruling_of_message has said)

theorem phase_after_escalation (has : play.story.puzzle? contact turn = some puzzle)
    (said : (Move.line contact line).message? contact turn = some message)
    (answered : (play.resolve contact line).1 = .locked text)
    (saved : play.saves contact line ≠ [])
    (early : play.now.millis.toInt < Int64.maxValue.toInt) :
    (play.resolve contact line).2.phase contact turn puzzle =
      .locked (puzzle.lockDeadline play.now) := by
  have ruling := ruling_of_message has said
  have asked := asked_after_line has said
  have unlock : ((play.resolve contact line).2.record contact turn).lockedUntil? =
      some (puzzle.lockDeadline play.now) := by
    have outcome : (play.verdict contact line).outcome = .locked text := answered
    rw [saves] at saved
    rw [record, state_resolve]
    generalize play.verdict contact line = verdict at ruling outcome saved ⊢
    cases ruling with
    | escalated isOpen wrong reached after picked =>
        rw [GameState.progressOf_escalation]
        rfl
    | barred asked locked => exact absurd rfl saved
    | solved isOpen solves => exact absurd outcome (puzzle.solvedOutcome_ne_locked text)
    | _ => cases outcome
  have later : play.now < puzzle.lockDeadline play.now := by
    have penalty := puzzle.penaltyMillis_pos
    rw [Instant.lt_iff, Puzzle.toInt_lockDeadline]
    omega
  exact Puzzle.phase_eq_locked_iff.mpr ⟨asked, unlock, later⟩

/-- The phase of a puzzle foretells what becomes of a line for it.  A puzzle that reads as locked
says so and saves nothing; one whose question is pending, which a fresh one may also be, asks it; in
all other phases the message is judged.  After the line no question is pending, and after a wrong
answer that locks the puzzle, the phase is that lock. -/
theorem phase_foretells (has : play.story.puzzle? contact turn = some puzzle)
    (said : (Move.line contact line).message? contact turn = some message) :
    play.Foretold contact turn puzzle line message := by
  have ruling := ruling_of_message has said
  have barred := Puzzle.barred_iff_outcome play.store ruling
  have question := Outcome.isPreQuestion_iff.symm.trans
    (Bool.eq_iff_iff.mp (Puzzle.isPreQuestion_of_ruling ruling))
  have judged := Puzzle.judges_iff_isOpen play.store ruling
  constructor
  · exact Puzzle.barred_iff_phase.trans barred.symm
  · exact question.trans Puzzle.asks_iff_phase
  · exact judged.trans Puzzle.isOpen_iff_phase
  · rcases puzzle.gates (play.record contact turn) play.now with shut | pending | isOpen
    · exact .inl (barred.mpr shut)
    · exact .inr (.inl (question.mpr pending))
    · exact .inr (.inr (judged.mpr isOpen))
  · intro judges
    rw [verdict_of_message has said]
    exact Puzzle.receive_of_isOpen (judged.mp judges)
  · exact fun now => Puzzle.phase_ne_pending (asked_after_line has said)
  · intro text answered saved early
    exact ⟨_, phase_after_escalation has said answered saved early,
      puzzle.toInt_lockDeadline play.now⟩

def recurrentPuzzle : Puzzle :=
  { Puzzle.simple ⟨1⟩ ["luce"] "Fatto." with preQuestion? := some "Sei pronto?", maxAttempts := 1 }

/-- A lock that runs out at this very instant. -/
def expiringPlay : Play where
  story := ({} : Story).withBundle ⟨"c1"⟩ { puzzles := [recurrentPuzzle] }
  store := {
    state := { progress := Table.ofList [
      (.of ⟨"c1"⟩ ⟨1⟩, { lockedUntil? := some ⟨1000⟩, preQuestionShown := true })] }
    vault := .memory {} }
  picker := .first
  now := ⟨1000⟩

/-- The lock that runs out bars nothing, and the next wrong answer sets another. -/
theorem phase_foretells_expiry :
    let answer := expiringPlay.resolve ⟨"c1"⟩ "T1: ombra"
    (expiringPlay.phase ⟨"c1"⟩ ⟨1⟩ recurrentPuzzle = .active ∧
      answer.1 = .locked Puzzle.lockoutText) ∧
    expiringPlay.Judges ⟨"c1"⟩ ⟨1⟩ "T1: ombra" ∧
    ∃ deadline, answer.2.phase ⟨"c1"⟩ ⟨1⟩ recurrentPuzzle = .locked deadline ∧
      deadline.millis.toInt = 11000 := by
  intro answer
  have has : expiringPlay.story.puzzle? ⟨"c1"⟩ ⟨1⟩ = some recurrentPuzzle := by decide +kernel
  have said : (Move.line ⟨"c1"⟩ "T1: ombra").message? ⟨"c1"⟩ ⟨1⟩ = some "ombra" := by
    decide +kernel
  have active : expiringPlay.phase ⟨"c1"⟩ ⟨1⟩ recurrentPuzzle = .active := by decide +kernel
  have answered : answer.1 = .locked Puzzle.lockoutText := by decide +kernel
  have saved : expiringPlay.saves ⟨"c1"⟩ "T1: ombra" ≠ [] := by decide +kernel
  have foretold := phase_foretells has said
  exact ⟨⟨active, answered⟩, foretold.judged.mpr (.inl active),
    foretold.escalates _ answered saved (by decide)⟩

end Play

end Casefile
