import Casefile.Game.Play
import Casefile.Proofs.Game.Edits
import Casefile.Proofs.Game.Keys

namespace Casefile

/-!
What a message to a puzzle can come to.

`Puzzle.Ruling` lists the verdicts with the conditions under which each is given.  It is proved once
of what the resolver does; what is said later about outcomes, records or whole plays goes by cases
of it.
-/

namespace Puzzle

def isOpen (puzzle : Puzzle) (progress : Progress) (now : Instant) : Bool :=
  (puzzle.pendingQuestion progress).isNone && !progress.isLockedAt now

def solvedBy (puzzle : Puzzle) (message : String) : Bool :=
  (Words.ofMessage message).mentionsAll puzzle.solution.keywords

def misses (puzzle : Puzzle) (message : String) : Bool :=
  !puzzle.solvedBy message && (puzzle.hint? (Words.ofMessage message)).isNone

inductive Ruling (puzzle : Puzzle) (key : StatusKey) (progress : Progress) (now : Instant)
    (picker : Picker) (message : String) : Verdict → Prop where
  | asked (question : String) (pending : puzzle.pendingQuestion progress = some question) :
    Ruling puzzle key progress now picker message
      { outcome := .preQuestion question, edits := [.setShown key true], picker }
  | barred (asked : puzzle.pendingQuestion progress = none)
    (locked : progress.isLockedAt now = true) :
    Ruling puzzle key progress now picker message
      { outcome := .locked (picker.pickText puzzle.penaltyResponses cooldownText).1
        edits := []
        picker := (picker.pickText puzzle.penaltyResponses cooldownText).2 }
  | solved (isOpen : puzzle.isOpen progress now = true) (solves : puzzle.solvedBy message = true) :
    Ruling puzzle key progress now picker message
      { outcome := puzzle.solvedOutcome, edits := puzzle.solvedEdits key, picker }
  | hinted (isOpen : puzzle.isOpen progress now = true)
    (unsolved : puzzle.solvedBy message = false) (hint : Hint)
    (near : puzzle.hint? (Words.ofMessage message) = some hint) :
    Ruling puzzle key progress now picker message
      { outcome := .hint hint.response, edits := [], picker }
  | failed (isOpen : puzzle.isOpen progress now = true) (wrong : puzzle.misses message = true)
    (within : ¬ puzzle.attemptLimit ≤ progress.failedOnce.failedAttempts) :
    Ruling puzzle key progress now picker message
      { outcome := .fail (picker.pickText puzzle.fallbacks fallbackText).1
        edits := [.countFailure key]
        picker := (picker.pickText puzzle.fallbacks fallbackText).2 }
  | escalated (isOpen : puzzle.isOpen progress now = true) (wrong : puzzle.misses message = true)
    (reached : puzzle.attemptLimit ≤ progress.failedOnce.failedAttempts) (after : Picker)
    (picked : after = (picker.pickText puzzle.fallbacks fallbackText).2) :
    Ruling puzzle key progress now picker message
      { outcome := .locked (after.pickText puzzle.penaltyResponses lockoutText).1
        edits := [.countFailure key, .lock key (puzzle.lockDeadline now)]
        picker := (after.pickText puzzle.penaltyResponses lockoutText).2 }

variable {puzzle : Puzzle} {key : StatusKey} {progress : Progress} {now : Instant}
  {picker : Picker} {message : String}

theorem isOpen_iff : puzzle.isOpen progress now = true ↔
    puzzle.pendingQuestion progress = none ∧ progress.isLockedAt now = false := by
  simp [isOpen]

theorem failed_ruling (isOpen : puzzle.isOpen progress now = true)
    (wrong : puzzle.misses message = true) :
    puzzle.Ruling key progress now picker message (puzzle.failed key progress now picker) := by
  unfold failed
  by_cases reached : puzzle.attemptLimit ≤ progress.failedOnce.failedAttempts
  · simp only [reached, if_true]
    exact .escalated isOpen wrong reached _ rfl
  · simp only [reached, if_false]
    exact .failed isOpen wrong reached

theorem judge_ruling (isOpen : puzzle.isOpen progress now = true) :
    puzzle.Ruling key progress now picker message
      (puzzle.judge key progress now picker message) := by
  unfold judge
  cases solves : puzzle.solvedBy message with
  | true =>
      rw [solvedBy] at solves
      simp only [solves, if_true]
      exact .solved isOpen solves
  | false =>
      have unsolved := solves
      rw [solvedBy] at solves
      simp only [solves, Bool.false_eq_true, if_false]
      cases hinted : puzzle.hint? (Words.ofMessage message) with
      | some hint => exact .hinted isOpen unsolved hint hinted
      | none => exact failed_ruling isOpen (by simp [misses, unsolved, hinted])

/-- What the resolver does with a message to a puzzle. -/
theorem receive_ruling (puzzle : Puzzle) (key : StatusKey) (progress : Progress) (now : Instant)
    (picker : Picker) (message : String) :
    puzzle.Ruling key progress now picker message
      (puzzle.receive key progress now picker message) := by
  unfold receive
  cases pending : puzzle.pendingQuestion progress with
  | some question => exact .asked question pending
  | none =>
      cases locked : progress.isLockedAt now with
      | true => exact .barred pending locked
      | false => exact judge_ruling (isOpen_iff.mpr ⟨pending, locked⟩)

theorem receive_of_solvedBy (isOpen : puzzle.isOpen progress now = true)
    (solves : puzzle.solvedBy message = true) :
    puzzle.receive key progress now picker message =
      { outcome := puzzle.solvedOutcome, edits := puzzle.solvedEdits key, picker } := by
  obtain ⟨asked, unlocked⟩ := isOpen_iff.mp isOpen
  rw [solvedBy] at solves
  simp [receive, asked, unlocked, judge, solves]

theorem solvedOutcome_cases (puzzle : Puzzle) :
    (∃ solved, puzzle.solvedOutcome = .success solved) ∨
      ∃ text, puzzle.solvedOutcome = .configError text := by
  unfold solvedOutcome
  cases puzzle.delivery with
  | ok delivery => exact .inl ⟨_, rfl⟩
  | error missing => exact .inr ⟨_, rfl⟩

theorem solvedOutcome_ne_locked (puzzle : Puzzle) (text : String) :
    puzzle.solvedOutcome ≠ .locked text := by
  rcases puzzle.solvedOutcome_cases with ⟨solved, success⟩ | ⟨reason, incomplete⟩
  · simp [success]
  · simp [incomplete]

end Puzzle

/-! The state after a ruling. -/

namespace GameState

variable {state : GameState} {key : StatusKey}

@[simp] theorem performAll_nil : state.performAll [] = state := rfl

@[simp] theorem performAll_setShown : state.performAll [.setShown key true] =
    state.revise key (Progress.withShown · true) := rfl

@[simp] theorem performAll_countFailure : state.performAll [.countFailure key] =
    state.revise key Progress.failedOnce := rfl

@[simp] theorem performAll_escalation (deadline : Instant) :
    state.performAll [.countFailure key, .lock key deadline] =
      state.revise key (Progress.lockedUntil · deadline) := by
  have counted : state.performAll [.countFailure key, .lock key deadline] =
      (state.revise key Progress.failedOnce).revise key (Progress.lockedUntil · deadline) := rfl
  rw [counted, revise_revise]
  rfl

@[simp] theorem performAll_solved (puzzle : Puzzle) : state.performAll (puzzle.solvedEdits key) =
    { state.revise key Progress.cleared with
      turn := if state.turn < puzzle.nextTurn then puzzle.nextTurn else state.turn } := by
  by_cases later : state.turn < puzzle.nextTurn
  · simp [performAll, Puzzle.solvedEdits, Edit.perform, Edit.applies, Edit.apply, later, revise,
      progressOf, progress?]
  · simp [performAll, Puzzle.solvedEdits, Edit.perform, Edit.applies, Edit.apply, later, revise]

end GameState

/-! Lines that reach a puzzle, and lines that reach none. -/

variable {story : Story} {picker : Picker} {state : GameState} {now : Instant}
  {contact : ContactId} {turn : Turn} {line : String} {puzzle : Puzzle} {message : String}

theorem Story.resolve_puzzle {command : Command} (parsed : Command.parse line = some command)
    (has : story.puzzle? contact command.turn = some puzzle) :
    story.resolve picker state now contact line =
      puzzle.receive (.of contact command.turn) (state.progressOf (.of contact command.turn)) now
        picker command.message := by
  cases bundled : story.bundle? contact with
  | none => simp [Story.puzzle?, bundled] at has
  | some bundle =>
      have found : bundle.puzzle? command.turn = some puzzle := by
        simpa [Story.puzzle?, bundled] using has
      simp only [Story.resolve, parsed, bundled, found]

/-- A line reaches a puzzle, or it has no effect and an outcome that says so. -/
theorem Story.resolve_cases (story : Story) (picker : Picker) (state : GameState) (now : Instant)
    (contact : ContactId) (line : String) :
    (∃ command puzzle, Command.parse line = some command ∧
      story.puzzle? contact command.turn = some puzzle) ∨
    ∃ outcome, (outcome = .invalid ∨ outcome = .contactNotFound ∨ outcome = .puzzleNotFound) ∧
      story.resolve picker state now contact line = { outcome, edits := [], picker } := by
  cases parsed : Command.parse line with
  | none => exact .inr ⟨.invalid, by simp, by simp only [Story.resolve, parsed]⟩
  | some command =>
      cases bundled : story.bundle? contact with
      | none =>
          exact .inr ⟨.contactNotFound, by simp, by simp only [Story.resolve, parsed, bundled]⟩
      | some bundle =>
          cases found : bundle.puzzle? command.turn with
          | none =>
              exact .inr ⟨.puzzleNotFound, by simp,
                by simp only [Story.resolve, parsed, bundled, found]⟩
          | some puzzle => exact .inl ⟨command, puzzle, rfl, by simp [Story.puzzle?, bundled, found]⟩

/-- Whether a puzzle was solved, be its announcement complete or not. -/
def Outcome.isSolution : Outcome → Bool
  | .success _ | .configError _ => true
  | _ => false

/-- Only a puzzle that is open is solved, and only by its keywords. -/
theorem Puzzle.solved_of_isSolution {key : StatusKey} {progress : Progress}
    (solved : (puzzle.receive key progress now picker message).outcome.isSolution = true) :
    puzzle.isOpen progress now = true ∧ puzzle.solvedBy message = true := by
  have ruling := puzzle.receive_ruling key progress now picker message
  generalize puzzle.receive key progress now picker message = verdict at ruling solved
  cases ruling with
  | solved isOpen solves => exact ⟨isOpen, solves⟩
  | asked => cases solved
  | barred => cases solved
  | hinted => cases solved
  | failed => cases solved
  | escalated => cases solved

/-- A line that solves a puzzle has its keywords, and comes to what the puzzle says. -/
theorem Story.resolve_solution
    (solved : (story.resolve picker state now contact line).outcome.isSolution = true) :
    ∃ command puzzle, Command.parse line = some command ∧
      story.puzzle? contact command.turn = some puzzle ∧
      puzzle.solvedBy command.message = true ∧
      (story.resolve picker state now contact line).outcome = puzzle.solvedOutcome := by
  rcases story.resolve_cases picker state now contact line with
    ⟨command, puzzle, parsed, has⟩ | ⟨outcome, unreached, resolved⟩
  · rw [Story.resolve_puzzle parsed has] at solved ⊢
    obtain ⟨isOpen, solves⟩ := Puzzle.solved_of_isSolution solved
    exact ⟨command, puzzle, parsed, has, solves, by rw [Puzzle.receive_of_solvedBy isOpen solves]⟩
  · rw [resolved] at solved
    rcases unreached with rfl | rfl | rfl <;> cases solved

end Casefile
