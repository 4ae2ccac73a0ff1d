import Casefile.Proofs.Game.Ruling

namespace Casefile

/-!
The record of one puzzle in a play.

Only lines for the puzzle itself change its record, and they change it as the ruling says.
-/

namespace Progress

theorem toNat_failedOnce (progress : Progress) :
    progress.failedOnce.failedAttempts.toNat =
      min (progress.failedAttempts.toNat + 1) (UInt32.size - 1) := by
  have bound := progress.failedAttempts.toNat_lt_size
  have size : UInt32.size = 4294967296 := rfl
  unfold failedOnce
  dsimp only
  by_cases full : progress.failedAttempts = 0xFFFFFFFF
  · rw [if_pos full, full]
    rfl
  · have room : progress.failedAttempts.toNat ≠ 4294967295 :=
      fun same => full (UInt32.toNat.inj same)
    have one : (1 : UInt32).toNat = 1 := rfl
    rw [if_neg full, UInt32.toNat_add]
    omega

end Progress

namespace Puzzle

/-- The saturating count reaches the limit when the exact one does. -/
theorem limit_le_failedOnce_iff (puzzle : Puzzle) (progress : Progress) :
    puzzle.attemptLimit ≤ progress.failedOnce.failedAttempts ↔
      puzzle.attemptLimit.toNat ≤ progress.failedAttempts.toNat + 1 := by
  have bound := puzzle.attemptLimit.toNat_lt_size
  have size : UInt32.size = 4294967296 := rfl
  rw [UInt32.le_iff_toNat_le, Progress.toNat_failedOnce]
  omega

theorem toNat_failedOnce_of_within {puzzle : Puzzle} {progress : Progress}
    (within : ¬ puzzle.attemptLimit ≤ progress.failedOnce.failedAttempts) :
    progress.failedOnce.failedAttempts.toNat = progress.failedAttempts.toNat + 1 := by
  rw [limit_le_failedOnce_iff] at within
  have bound := puzzle.attemptLimit.toNat_lt_size
  rw [Progress.toNat_failedOnce]
  omega

end Puzzle

namespace GameState

variable {state : GameState} {key : StatusKey} {puzzle : Puzzle} {progress : Progress}
  {now : Instant} {picker : Picker} {message : String} {verdict : Verdict}

theorem progressOf_escalation (deadline : Instant) :
    (state.performAll [.countFailure key, .lock key deadline]).progressOf key =
      (state.progressOf key).lockedUntil deadline := by
  simp

theorem progressOf_solved (puzzle : Puzzle) :
    (state.performAll (puzzle.solvedEdits key)).progressOf key =
      (state.progressOf key).cleared := by
  simp

theorem frame_of_ruling (state : GameState)
    (ruling : puzzle.Ruling key progress now picker message verdict) :
    (state.performAll verdict.edits).chats = state.chats ∧
      ∀ other, other ≠ key →
        (state.performAll verdict.edits).progress? other = state.progress? other := by
  have revised : ∀ change : Progress → Progress,
      (state.revise key change).chats = state.chats ∧
        ∀ other, other ≠ key →
          (state.revise key change).progress? other = state.progress? other := by
    intro change
    refine ⟨rfl, fun other different => ?_⟩
    rw [progress?_revise, if_neg different]
  cases ruling with
  | asked question pending => exact revised (Progress.withShown · true)
  | barred asked locked => exact ⟨rfl, fun _ _ => rfl⟩
  | solved isOpen solves =>
      rw [performAll_solved]
      exact revised _
  | hinted isOpen unsolved hint near => exact ⟨rfl, fun _ _ => rfl⟩
  | failed isOpen wrong within => exact revised Progress.failedOnce
  | escalated isOpen wrong reached after picked =>
      rw [performAll_escalation]
      exact revised _

end GameState

theorem Move.message?_invert {move : Move} {contact : ContactId} {turn : Turn} {message : String}
    (said : move.message? contact turn = some message) :
    ∃ line command, move = .line contact line ∧ Command.parse line = some command ∧
      command.turn = turn ∧ command.message = message := by
  cases move with
  | clock now => cases said
  | line addressee line =>
      cases parsed : Command.parse line with
      | none => simp [Move.message?, parsed] at said
      | some command =>
          simp only [Move.message?, parsed, Option.ite_none_right_eq_some,
            Option.some.injEq] at said
          obtain ⟨⟨rfl, sameTurn⟩, sameMessage⟩ := said
          exact ⟨line, command, rfl, parsed, sameTurn, sameMessage⟩

namespace Play

variable {play : Play} {move : Move} {moves : List Move} {contact : ContactId} {turn : Turn}
  {puzzle : Puzzle} {message line : String}

def record (play : Play) (contact : ContactId) (turn : Turn) : Progress :=
  play.state.progressOf (.of contact turn)

@[simp] theorem story_make (play : Play) (move : Move) : (play.make move).story = play.story := by
  cases move <;> rfl

@[simp] theorem run_concat (play : Play) (moves : List Move) (move : Move) :
    play.run (moves ++ [move]) = (play.run moves).make move := by
  simp [run]

@[simp] theorem story_run (play : Play) (moves : List Move) :
    (play.run moves).story = play.story := by
  induction moves generalizing play with
  | nil => rfl
  | cons move moves ih => exact (ih (play.make move)).trans (play.story_make move)

theorem puzzle?_make (has : play.story.puzzle? contact turn = some puzzle) (move : Move) :
    (play.make move).story.puzzle? contact turn = some puzzle := by
  simpa using has

theorem puzzle?_run (has : play.story.puzzle? contact turn = some puzzle) (moves : List Move) :
    (play.run moves).story.puzzle? contact turn = some puzzle := by
  simpa using has

@[simp] theorem state_make_line (play : Play) (contact : ContactId) (line : String) :
    (play.make (.line contact line)).state =
      play.state.performAll (play.verdict contact line).edits :=
  Store.state_commitAll _ _

@[simp] theorem state_resolve (play : Play) (contact : ContactId) (line : String) :
    (play.resolve contact line).2.state =
      play.state.performAll (play.verdict contact line).edits :=
  state_make_line play contact line

theorem ruling_of_parse {command : Command} (parsed : Command.parse line = some command)
    (has : play.story.puzzle? contact command.turn = some puzzle) :
    puzzle.Ruling (.of contact command.turn) (play.record contact command.turn) play.now
      play.picker command.message (play.verdict contact line) := by
  rw [verdict, Story.resolve_puzzle parsed has]
  exact Puzzle.receive_ruling ..

theorem verdict_of_message (has : play.story.puzzle? contact turn = some puzzle)
    (said : (Move.line contact line).message? contact turn = some message) :
    play.verdict contact line =
      puzzle.receive (.of contact turn) (play.record contact turn) play.now play.picker message := by
  obtain ⟨_, command, same, parsed, rfl, rfl⟩ := Move.message?_invert said
  cases same
  exact Story.resolve_puzzle parsed has

theorem ruling_of_message (has : play.story.puzzle? contact turn = some puzzle)
    (said : (Move.line contact line).message? contact turn = some message) :
    puzzle.Ruling (.of contact turn) (play.record contact turn) play.now play.picker message
      (play.verdict contact line) := by
  rw [verdict_of_message has said]
  exact Puzzle.receive_ruling ..

/-- Moves that are no lines for a puzzle leave its record alone. -/
theorem record_make_of_other (elsewhere : move.message? contact turn = none) :
    (play.make move).record contact turn = play.record contact turn := by
  cases move with
  | clock now => rfl
  | line addressee line =>
      have after := play.state_make_line addressee line
      rcases play.story.resolve_cases play.picker play.state play.now addressee line with
        ⟨command, puzzle, parsed, has⟩ | ⟨outcome, _, resolved⟩
      · have said : (Move.line addressee line).message? addressee command.turn =
            some command.message := by simp [Move.message?, parsed]
        have different : StatusKey.of contact turn ≠ StatusKey.of addressee command.turn := by
          intro same
          obtain ⟨rfl, rfl⟩ := StatusKey.parts_of_eq same
          rw [said] at elsewhere
          cases elsewhere
        have frame := GameState.frame_of_ruling play.state (ruling_of_parse parsed has)
        rw [record, after, GameState.progressOf, frame.2 _ different]
        rfl
      · rw [record, after, verdict, resolved]
        rfl

theorem record_make (Kept : Progress → Prop)
    (has : play.story.puzzle? contact turn = some puzzle)
    (rules : ∀ {state : GameState} {key now picker message verdict}, Kept (state.progressOf key) →
      puzzle.Ruling key (state.progressOf key) now picker message verdict →
        Kept ((state.performAll verdict.edits).progressOf key))
    (move : Move) (kept : Kept (play.record contact turn)) :
    Kept ((play.make move).record contact turn) := by
  cases said : move.message? contact turn with
  | none =>
      rw [record_make_of_other said]
      exact kept
  | some message =>
      obtain ⟨line, _, rfl, _⟩ := Move.message?_invert said
      rw [record, state_make_line]
      exact rules kept (ruling_of_message has said)

/-- What every ruling on a puzzle keeps true of its record stays true throughout a play. -/
theorem record_run (Kept : Progress → Prop)
    (has : play.story.puzzle? contact turn = some puzzle)
    (rules : ∀ {state : GameState} {key now picker message verdict}, Kept (state.progressOf key) →
      puzzle.Ruling key (state.progressOf key) now picker message verdict →
        Kept ((state.performAll verdict.edits).progressOf key))
    (moves : List Move) (kept : Kept (play.record contact turn)) :
    Kept ((play.run moves).record contact turn) := by
  induction moves generalizing play with
  | nil => exact kept
  | cons move moves ih => exact ih (puzzle?_make has move) (record_make Kept has rules move kept)

end Play

end Casefile
