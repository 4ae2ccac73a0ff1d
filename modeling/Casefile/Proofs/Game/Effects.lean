import Casefile.Proofs.Game.Record

namespace Casefile

/-!
The outcome of a line tells what it changed.

`Play.Effect` is the change that goes with each outcome.  Apart from it nothing changes: no chat and
no other record, and no lock or question that was asked is forgotten.
-/

theorem GameState.revise_congr {state : GameState} {key : StatusKey}
    {first second : Progress → Progress}
    (same : first (state.progressOf key) = second (state.progressOf key)) :
    state.revise key first = state.revise key second := by
  rw [revise, same, ← revise]

namespace Play

/-- A line reaches a puzzle, whose record is kept under a key. -/
def Reaches (play : Play) (contact : ContactId) (line : String) (key : StatusKey)
    (puzzle : Puzzle) : Prop :=
  ∃ command, Command.parse line = some command ∧ key = .of contact command.turn ∧
    play.story.puzzle? contact command.turn = some puzzle

/-- Nothing was changed, and no save was attempted. -/
def Untouched (play : Play) (contact : ContactId) (line : String) : Prop :=
  (play.verdict contact line).edits = [] ∧ (play.resolve contact line).2.store = play.store

/-- What a line changes when it has some outcome. -/
def Effect (play : Play) (contact : ContactId) (line : String) : Outcome → Prop
  | .invalid | .contactNotFound | .puzzleNotFound | .hint _ => play.Untouched contact line
  | .preQuestion _ => ∃ key puzzle, play.Reaches contact line key puzzle ∧
    (play.resolve contact line).2.state =
      play.state.revise key fun progress => { progress with preQuestionShown := true }
  | .fail _ => ∃ key puzzle, play.Reaches contact line key puzzle ∧ ∃ count : UInt32,
    count.toNat = (play.state.progressOf key).failedAttempts.toNat + 1 ∧
    (play.resolve contact line).2.state =
      play.state.revise key fun progress => { progress with failedAttempts := count }
  | .locked _ => ∃ key puzzle, play.Reaches contact line key puzzle ∧
    if play.state.isLocked key play.now then play.Untouched contact line
    else (play.resolve contact line).2.state =
      play.state.revise key fun progress =>
        { progress with failedAttempts := 0, lockedUntil? := some (puzzle.lockDeadline play.now) }
  | .success _ | .configError _ => ∃ key puzzle, play.Reaches contact line key puzzle ∧
    (play.resolve contact line).2.state =
      { play.state.revise key fun progress => { progress with failedAttempts := 0 } with
        turn := ⟨max play.state.turn.number puzzle.nextTurn.number⟩ }

/-- What no line changes: chats, other records, and locks and questions that were set. -/
structure Framed (play : Play) (contact : ContactId) (line : String) (after : GameState) :
    Prop where
  chats : after.chats = play.state.chats
  others : ∀ key, (∀ puzzle, ¬ play.Reaches contact line key puzzle) →
    after.progress? key = play.state.progress? key
  locks : ∀ key, (play.state.lockedUntil? key).isSome → (after.lockedUntil? key).isSome
  questions : ∀ key, play.state.isPreQuestionShown key = true →
    after.isPreQuestionShown key = true

variable {play : Play} {contact : ContactId} {turn : Turn} {line : String} {command : Command}
  {puzzle : Puzzle}

theorem untouched_of_no_edits (unedited : (play.verdict contact line).edits = []) :
    play.Untouched contact line := by
  refine ⟨unedited, ?_⟩
  show play.store.commitAll (play.verdict contact line).edits = play.store
  rw [unedited]
  rfl

theorem effect_of_ruling {key : StatusKey} {message : String}
    (reaches : play.Reaches contact line key puzzle)
    (ruling : puzzle.Ruling key (play.state.progressOf key) play.now play.picker message
      (play.verdict contact line)) :
    play.Effect contact line (play.resolve contact line).1 := by
  have after := play.state_resolve contact line
  have idle : (play.verdict contact line).edits = [] → play.Untouched contact line :=
    untouched_of_no_edits
  have outcome : (play.resolve contact line).1 = (play.verdict contact line).outcome := rfl
  rw [outcome]
  generalize play.verdict contact line = verdict at ruling after idle ⊢
  cases ruling with
  | asked question pending => exact ⟨key, puzzle, reaches, after⟩
  | barred asked locked =>
      refine ⟨key, puzzle, reaches, ?_⟩
      rw [if_pos (show play.state.isLocked key play.now = true from locked)]
      exact idle rfl
  | solved isOpen solves =>
      have solved : (play.resolve contact line).2.state =
          { play.state.revise key fun progress => { progress with failedAttempts := 0 } with
            turn := ⟨max play.state.turn.number puzzle.nextTurn.number⟩ } := by
        rw [after, GameState.performAll_solved, Turn.later_eq_max]
        rfl
      rcases puzzle.solvedOutcome_cases with ⟨reply, success⟩ | ⟨text, incomplete⟩
      · rw [success]
        exact ⟨key, puzzle, reaches, solved⟩
      · rw [incomplete]
        exact ⟨key, puzzle, reaches, solved⟩
  | hinted isOpen unsolved hint near => exact idle rfl
  | failed isOpen wrong within =>
      refine ⟨key, puzzle, reaches, (play.state.progressOf key).failedOnce.failedAttempts,
        Puzzle.toNat_failedOnce_of_within within, ?_⟩
      rw [after, GameState.performAll_countFailure]
      exact GameState.revise_congr rfl
  | escalated isOpen wrong reached picker picked =>
      obtain ⟨_, unlocked⟩ := Puzzle.isOpen_iff.mp isOpen
      have isUnlocked : ¬ play.state.isLocked key play.now = true := by
        rw [GameState.isLocked, unlocked]
        exact Bool.false_ne_true
      refine ⟨key, puzzle, reaches, ?_⟩
      rw [if_neg isUnlocked, after, GameState.performAll_escalation]
      rfl

theorem kept_of_ruling {state : GameState} {key : StatusKey} {now : Instant} {picker : Picker}
    {message : String} {verdict : Verdict}
    (ruling : puzzle.Ruling key (state.progressOf key) now picker message verdict) :
    ((state.progressOf key).lockedUntil?.isSome →
      ((state.performAll verdict.edits).progressOf key).lockedUntil?.isSome) ∧
    ((state.progressOf key).preQuestionShown = true →
      ((state.performAll verdict.edits).progressOf key).preQuestionShown = true) := by
  cases ruling with
  | asked question pending => simp [Progress.withShown]
  | barred asked locked => exact ⟨id, id⟩
  | solved isOpen solves => simp [Progress.cleared]
  | hinted isOpen unsolved hint near => exact ⟨id, id⟩
  | failed isOpen wrong within => simp [Progress.failedOnce]
  | escalated isOpen wrong reached after picked => simp [Progress.lockedUntil]

theorem framed_of_ruling {message : String} {key : StatusKey}
    (reaches : play.Reaches contact line key puzzle)
    (ruling : puzzle.Ruling key (play.state.progressOf key) play.now play.picker message
      (play.verdict contact line)) :
    play.Framed contact line (play.resolve contact line).2.state := by
  rw [state_resolve]
  obtain ⟨chats, frame⟩ := GameState.frame_of_ruling play.state ruling
  have kept := kept_of_ruling ruling
  constructor
  · exact chats
  · intro other unreached
    exact frame other fun same => unreached puzzle (same ▸ reaches)
  · intro other locked
    by_cases same : other = key
    · subst same
      exact kept.1 locked
    · rw [GameState.lockedUntil?, GameState.progressOf, frame other same]
      exact locked
  · intro other shown
    by_cases same : other = key
    · subst same
      exact kept.2 shown
    · rw [GameState.isPreQuestionShown, GameState.progressOf, frame other same]
      exact shown

/-- Outcome and effect agree.  What a line changes is determined by its outcome, and it changes
nothing else: no chat, no record of another puzzle, and no lock or asked question is forgotten. -/
theorem effect_of_outcome (play : Play) (contact : ContactId) (line : String) :
    play.Effect contact line (play.resolve contact line).1 ∧
      play.Framed contact line (play.resolve contact line).2.state := by
  rcases play.story.resolve_cases play.picker play.state play.now contact line with
    ⟨command, puzzle, parsed, has⟩ | ⟨outcome, unanswered, resolved⟩
  · have reaches : play.Reaches contact line (.of contact command.turn) puzzle :=
      ⟨command, parsed, rfl, has⟩
    have ruling := ruling_of_parse parsed has
    exact ⟨effect_of_ruling reaches ruling, framed_of_ruling reaches ruling⟩
  · have unedited : (play.verdict contact line).edits = [] := by rw [verdict, resolved]
    have untouched := untouched_of_no_edits unedited
    have same : (play.resolve contact line).2.state = play.state :=
      congrArg Store.state untouched.2
    constructor
    · rw [show (play.resolve contact line).1 = outcome from congrArg Verdict.outcome resolved]
      rcases unanswered with rfl | rfl | rfl <;> exact untouched
    · rw [same]
      exact ⟨rfl, fun _ _ => rfl, fun _ => id, fun _ => id⟩

end Play

end Casefile
