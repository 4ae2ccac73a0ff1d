import Casefile.Proofs.Game.Record
import Casefile.Proofs.Instant

namespace Casefile

/-!
A lockout cannot be bypassed.

Only another escalation writes the deadline of a lock, and it comes when the lock has run out, so
that the deadline never moves back.  The question before the puzzle was asked before the lock and
is not asked again.
-/

theorem Puzzle.penaltyMillis_pos (puzzle : Puzzle) : 0 < puzzle.penaltyMillis.toInt := by
  have seconds : ∃ seconds : UInt32, seconds ≠ 0 ∧
      puzzle.penaltyMillis = Int64.ofNat (seconds.toNat * 1000) := by
    by_cases unset : puzzle.penaltySeconds = 0
    · exact ⟨defaultPenalty, by decide, by simp [penaltyMillis, unset]⟩
    · exact ⟨puzzle.penaltySeconds, unset, by simp [penaltyMillis, unset]⟩
  obtain ⟨seconds, positive, same⟩ := seconds
  have bound := seconds.toNat_lt
  have nonzero : seconds.toNat ≠ 0 := fun zero => positive (UInt32.toNat.inj zero)
  rw [same, Int64.toInt_ofNat_of_lt (by omega)]
  omega

namespace Puzzle

variable {puzzle : Puzzle} {progress : Progress} {now : Instant} {picker : Picker}
  {message : String} {verdict : Verdict} {deadline : Int} {state : GameState} {key : StatusKey}

/-- The question before the puzzle is done with, and the lock holds until some time or longer. -/
structure BarredUntil (puzzle : Puzzle) (progress : Progress) (deadline : Int) : Prop where
  asked : puzzle.pendingQuestion progress = none
  locked : ∃ unlock, progress.lockedUntil? = some unlock ∧ deadline ≤ unlock.millis.toInt

theorem BarredUntil.isLockedAt (barred : puzzle.BarredUntil progress deadline)
    (early : now.millis.toInt < deadline) : progress.isLockedAt now = true := by
  obtain ⟨unlock, locked, later⟩ := barred.locked
  have before : now < unlock := Instant.lt_iff.mpr (by omega)
  simp [Progress.isLockedAt, locked, before]

theorem BarredUntil.of_not_isLockedAt (barred : puzzle.BarredUntil progress deadline)
    (isOpen : puzzle.isOpen progress now = true) : deadline ≤ now.millis.toInt := by
  obtain ⟨_, unlocked⟩ := isOpen_iff.mp isOpen
  by_cases early : now.millis.toInt < deadline
  · rw [barred.isLockedAt early] at unlocked
    cases unlocked
  · omega

theorem toInt_lockDeadline (puzzle : Puzzle) (now : Instant) :
    (puzzle.lockDeadline now).millis.toInt =
      min (now.millis.toInt + puzzle.penaltyMillis.toInt) Int64.maxValue.toInt :=
  now.toInt_after (Int.le_of_lt puzzle.penaltyMillis_pos)

/-- A ruling lifts no lock and sets none that ends earlier. -/
theorem BarredUntil.ruling (barred : puzzle.BarredUntil (state.progressOf key) deadline)
    (ruling : puzzle.Ruling key (state.progressOf key) now picker message verdict) :
    puzzle.BarredUntil ((state.performAll verdict.edits).progressOf key) deadline := by
  cases ruling with
  | asked question pending =>
      rw [barred.asked] at pending
      cases pending
  | barred asked locked => exact barred
  | solved isOpen solves =>
      rw [GameState.progressOf_solved]
      exact ⟨barred.asked, barred.locked⟩
  | hinted isOpen unsolved hint near => exact barred
  | failed isOpen wrong within =>
      rw [GameState.performAll_countFailure, GameState.progressOf_revise_self]
      exact ⟨barred.asked, barred.locked⟩
  | escalated isOpen wrong reached after picked =>
      rw [GameState.progressOf_escalation]
      refine ⟨barred.asked, puzzle.lockDeadline now, rfl, ?_⟩
      -- An open puzzle is judged after the old deadline, so the new one is later.
      have expired := barred.of_not_isLockedAt isOpen
      have penalty := puzzle.penaltyMillis_pos
      have bound := now.millis.toInt_le
      rw [toInt_lockDeadline]
      omega

end Puzzle

namespace Play

variable {play : Play} {contact : ContactId} {turn : Turn} {puzzle : Puzzle} {deadline : Int}
  {first line text message : String}

theorem barred_run (has : play.story.puzzle? contact turn = some puzzle) (moves : List Move)
    (barred : puzzle.BarredUntil (play.record contact turn) deadline) :
    puzzle.BarredUntil ((play.run moves).record contact turn) deadline :=
  record_run (puzzle.BarredUntil · deadline) has Puzzle.BarredUntil.ruling moves barred

theorem resolve_of_barred (has : play.story.puzzle? contact turn = some puzzle)
    (barred : puzzle.BarredUntil (play.record contact turn) deadline)
    (early : play.now.millis.toInt < deadline)
    (said : (Move.line contact line).message? contact turn = some message) :
    (∃ text, (play.resolve contact line).1 = .locked text) ∧
      (play.resolve contact line).2.store = play.store := by
  have ruling := ruling_of_message has said
  have locked := barred.isLockedAt early
  have shut : puzzle.isOpen (play.record contact turn) play.now ≠ true := by
    simp [Puzzle.isOpen, locked]
  simp only [resolve]
  generalize play.verdict contact line = verdict at ruling ⊢
  cases ruling with
  | asked question pending =>
      rw [barred.asked] at pending
      cases pending
  | barred asked locked => exact ⟨⟨_, rfl⟩, rfl⟩
  | solved isOpen _ => exact absurd isOpen shut
  | hinted isOpen _ _ _ => exact absurd isOpen shut
  | failed isOpen _ _ => exact absurd isOpen shut
  | escalated isOpen _ _ _ _ => exact absurd isOpen shut

theorem counted_key {key other : StatusKey} {progress : Progress} {now : Instant}
    {picker : Picker} {verdict : Verdict}
    (ruling : puzzle.Ruling key progress now picker message verdict)
    (counted : .countFailure other ∈ verdict.edits) : other = key := by
  cases ruling <;> simp [Puzzle.solvedEdits] at counted <;> exact counted

theorem message_of_counted
    (counted : .countFailure (.of contact turn) ∈ (play.verdict contact line).edits) :
    ∃ message, (Move.line contact line).message? contact turn = some message := by
  rcases play.story.resolve_cases play.picker play.state play.now contact line with
    ⟨command, puzzle, parsed, has⟩ | ⟨outcome, _, resolved⟩
  · have said : (Move.line contact line).message? contact command.turn = some command.message := by
      simp [Move.message?, parsed]
    have sameKey := counted_key (ruling_of_message has said) counted
    obtain ⟨_, rfl⟩ := StatusKey.parts_of_eq sameKey
    exact ⟨command.message, said⟩
  · rw [verdict, resolved] at counted
    cases counted

theorem barred_of_escalation (has : play.story.puzzle? contact turn = some puzzle)
    (answered : (play.resolve contact first).1 = .locked text)
    (counted : .countFailure (.of contact turn) ∈ (play.verdict contact first).edits) :
    puzzle.BarredUntil ((play.resolve contact first).2.record contact turn)
      (min (play.now.millis.toInt + puzzle.penaltyMillis.toInt) Int64.maxValue.toInt) := by
  obtain ⟨message, said⟩ := message_of_counted counted
  have ruling := ruling_of_message has said
  have after : (play.resolve contact first).2.record contact turn =
      (play.state.performAll (play.verdict contact first).edits).progressOf
        (.of contact turn) := congrArg (GameState.progressOf · _) (state_make_line play contact first)
  have outcome : (play.verdict contact first).outcome = .locked text := answered
  rw [after]
  generalize play.verdict contact first = verdict at ruling counted outcome ⊢
  cases ruling with
  | escalated isOpen wrong reached after picked =>
      rw [GameState.progressOf_escalation]
      obtain ⟨asked, _⟩ := Puzzle.isOpen_iff.mp isOpen
      exact ⟨asked, puzzle.lockDeadline play.now, rfl, Int.le_of_eq (puzzle.toInt_lockDeadline _).symm⟩
  | failed isOpen wrong within => cases outcome
  | solved isOpen solves => simp [Puzzle.solvedEdits] at counted
  | _ => simp at counted

/-- A lockout cannot be bypassed.  After a line whose wrong answer locked a puzzle, every line for
that puzzle is told that it is locked and changes nothing, for as long as the clock stands before
the end of the penalty, whatever else was played and however the clock was set in between. -/
theorem lockout_holds (has : play.story.puzzle? contact turn = some puzzle)
    (answered : (play.resolve contact first).1 = .locked text)
    (counted : .countFailure (.of contact turn) ∈ (play.verdict contact first).edits)
    (moves : List Move)
    (early : (((play.resolve contact first).2.run moves).now.millis.toInt : Int) <
      min (play.now.millis.toInt + puzzle.penaltyMillis.toInt) Int64.maxValue.toInt)
    (said : (Move.line contact line).message? contact turn = some message) :
    let later := (play.resolve contact first).2.run moves
    (∃ text, (later.resolve contact line).1 = .locked text) ∧
      (later.resolve contact line).2.store = later.store := by
  intro later
  have hasNext : (play.resolve contact first).2.story.puzzle? contact turn = some puzzle := has
  have hasLater := puzzle?_run hasNext moves
  have barred := barred_run hasNext moves (barred_of_escalation has answered counted)
  exact resolve_of_barred hasLater barred early said

def strictPuzzle : Puzzle := { Puzzle.simple ⟨1⟩ ["luce"] "Fatto." with maxAttempts := 1 }

def strictPlay : Play where
  story := ({} : Story).withBundle ⟨"c1"⟩ { puzzles := [strictPuzzle] }
  store := .resume (.memory {})
  picker := .first
  now := ⟨0⟩

/-- The lock holds even after the puzzle was solved, once the clock is set back. -/
theorem lockout_holds_after_solution :
    let later := (strictPlay.resolve ⟨"c1"⟩ "T1: ombra").2.run
      [.clock ⟨20000⟩, .line ⟨"c1"⟩ "T1: luce", .clock ⟨9999⟩]
    (∃ text, (later.resolve ⟨"c1"⟩ "T1: luce").1 = .locked text) ∧
      (later.resolve ⟨"c1"⟩ "T1: luce").2.store = later.store := by
  have has : strictPlay.story.puzzle? ⟨"c1"⟩ ⟨1⟩ = some strictPuzzle := by decide +kernel
  have answered : (strictPlay.resolve ⟨"c1"⟩ "T1: ombra").1 = .locked Puzzle.lockoutText := by
    decide +kernel
  have counted : .countFailure (.of ⟨"c1"⟩ ⟨1⟩) ∈
      (strictPlay.verdict ⟨"c1"⟩ "T1: ombra").edits := by decide +kernel
  have said : (Move.line ⟨"c1"⟩ "T1: luce").message? ⟨"c1"⟩ ⟨1⟩ = some "luce" := by decide +kernel
  exact lockout_holds has answered counted _ (by decide +kernel) said

end Play

end Casefile
