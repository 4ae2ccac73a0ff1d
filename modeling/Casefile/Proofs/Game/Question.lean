import Casefile.Proofs.Game.Effects

namespace Casefile

/-!
The question before a puzzle is asked once, and before anything else.

In a new game no puzzle has a record, so the first line for a puzzle finds its question pending.
That line is answered with the question and marks it as asked, and no ruling takes the mark back.
-/

def Outcome.isPreQuestion : Outcome → Bool
  | .preQuestion _ => true
  | _ => false

/-- The question of a puzzle, if it has one, is the first answer and no other. -/
def AskedFirst : Option String → List Outcome → Prop
  | none, answers => ∀ answer ∈ answers, answer.isPreQuestion = false
  | some _, [] => True
  | some question, first :: later =>
    first = .preQuestion question ∧ ∀ answer ∈ later, answer.isPreQuestion = false

namespace Puzzle

variable {puzzle : Puzzle} {state : GameState} {key : StatusKey} {progress : Progress}
  {now : Instant} {picker : Picker} {message : String} {verdict : Verdict}

theorem pendingQuestion_eq_none_iff : puzzle.pendingQuestion progress = none ↔
    progress.preQuestionShown = true ∨ puzzle.preQuestion = none := by
  cases shown : progress.preQuestionShown <;> simp [pendingQuestion, shown]

theorem isPreQuestion_solvedOutcome (puzzle : Puzzle) :
    puzzle.solvedOutcome.isPreQuestion = false := by
  unfold solvedOutcome
  split <;> rfl

theorem isPreQuestion_of_ruling
    (ruling : puzzle.Ruling key progress now picker message verdict) :
    verdict.outcome.isPreQuestion = (puzzle.pendingQuestion progress).isSome := by
  have asked_of_isOpen (isOpen : puzzle.isOpen progress now = true) :
      puzzle.pendingQuestion progress = none := (isOpen_iff.mp isOpen).1
  cases ruling with
  | asked question pending => rw [pending]; rfl
  | barred asked locked => rw [asked]; rfl
  | solved isOpen solves =>
      rw [asked_of_isOpen isOpen]
      exact puzzle.isPreQuestion_solvedOutcome
  | hinted isOpen unsolved hint near => rw [asked_of_isOpen isOpen]; rfl
  | failed isOpen wrong within => rw [asked_of_isOpen isOpen]; rfl
  | escalated isOpen wrong reached after picked => rw [asked_of_isOpen isOpen]; rfl

theorem verdict_of_pending {question : String}
    (pending : puzzle.pendingQuestion progress = some question)
    (ruling : puzzle.Ruling key progress now picker message verdict) :
    verdict =
      { outcome := .preQuestion question, edits := [.setShown key true], picker } := by
  have asked := isPreQuestion_of_ruling ruling
  rw [pending] at asked
  cases ruling with
  | asked same first =>
      rw [pending] at first
      obtain rfl := Option.some.inj first
      rfl
  | solved isOpen solves =>
      rw [isPreQuestion_solvedOutcome] at asked
      cases asked
  | _ => cases asked

/-- After any line for a puzzle its question is done with. -/
theorem asked_of_ruling
    (ruling : puzzle.Ruling key (state.progressOf key) now picker message verdict) :
    puzzle.pendingQuestion ((state.performAll verdict.edits).progressOf key) = none := by
  rw [pendingQuestion_eq_none_iff]
  cases pending : puzzle.pendingQuestion (state.progressOf key) with
  | none =>
      rw [pendingQuestion_eq_none_iff] at pending
      exact pending.imp_left (Play.kept_of_ruling ruling).2
  | some question =>
      simp [verdict_of_pending pending ruling, Progress.withShown]

end Puzzle

namespace Play

/-- What a move comes to for a puzzle, if it is a line for it. -/
def answer? (play : Play) (contact : ContactId) (turn : Turn) : Move → Option Outcome
  | .line addressee line =>
    ((Move.line addressee line).message? contact turn).map fun _ => (play.resolve addressee line).1
  | .clock _ => none

/-- What the lines for a puzzle come to, one after the other. -/
def answers (play : Play) (contact : ContactId) (turn : Turn) (moves : List Move) : List Outcome :=
  (play.history moves).filterMap fun entry => entry.1.answer? contact turn entry.2

/-- A line that is no attempt, moves no turn and has no text chosen for it. -/
structure Uncounted (play : Play) (contact : ContactId) (line : String) : Prop where
  picker : (play.resolve contact line).2.picker = play.picker
  turn : (play.resolve contact line).2.state.turn = play.state.turn
  attempts : ∀ key, ((play.resolve contact line).2.state.progressOf key).failedAttempts =
    (play.state.progressOf key).failedAttempts

variable {play : Play} {contact : ContactId} {turn : Turn} {puzzle : Puzzle} {move : Move}
  {line message question : String}

theorem answers_cons (play : Play) (contact : ContactId) (turn : Turn) (move : Move)
    (moves : List Move) : play.answers contact turn (move :: moves) =
      (play.answer? contact turn move).toList ++ (play.make move).answers contact turn moves := by
  rw [answers, history, List.filterMap_cons]
  cases play.answer? contact turn move <;> rfl

theorem answer?_of_other (elsewhere : move.message? contact turn = none) :
    play.answer? contact turn move = none := by
  cases move with
  | line addressee line => rw [answer?, elsewhere]; rfl
  | clock now => rfl

theorem answer?_of_message (said : (Move.line contact line).message? contact turn = some message) :
    play.answer? contact turn (.line contact line) = some (play.verdict contact line).outcome := by
  rw [answer?, said]
  rfl

theorem answers_of_asked (has : play.story.puzzle? contact turn = some puzzle)
    (asked : puzzle.pendingQuestion (play.record contact turn) = none) (moves : List Move) :
    ∀ answer ∈ play.answers contact turn moves, answer.isPreQuestion = false := by
  induction moves generalizing play with
  | nil => exact List.forall_mem_nil _
  | cons move moves ih =>
      have askedNext : puzzle.pendingQuestion ((play.make move).record contact turn) = none :=
        record_make (puzzle.pendingQuestion · = none) has
          (fun _ ruling => Puzzle.asked_of_ruling ruling) move asked
      rw [answers_cons]
      refine List.forall_mem_append.mpr ⟨?_, ih (puzzle?_make has move) askedNext⟩
      cases said : move.message? contact turn with
      | none =>
          rw [answer?_of_other said]
          exact List.forall_mem_nil _
      | some message =>
          obtain ⟨line, _, rfl, _⟩ := Move.message?_invert said
          have unasked := Puzzle.isPreQuestion_of_ruling (ruling_of_message has said)
          rw [asked] at unasked
          rw [answer?_of_message said]
          exact List.forall_mem_singleton.mpr unasked

theorem answers_of_pending (has : play.story.puzzle? contact turn = some puzzle)
    (pending : puzzle.pendingQuestion (play.record contact turn) = some question)
    (moves : List Move) : AskedFirst (some question) (play.answers contact turn moves) := by
  -- The lines before the first one for the puzzle leave its question pending.
  induction moves generalizing play with
  | nil => trivial
  | cons move moves ih =>
      rw [answers_cons]
      cases said : move.message? contact turn with
      | none =>
          rw [answer?_of_other said]
          exact ih (puzzle?_make has move) (by rw [record_make_of_other said]; exact pending)
      | some message =>
          obtain ⟨line, _, rfl, _⟩ := Move.message?_invert said
          have ruling := ruling_of_message has said
          have asked : puzzle.pendingQuestion
              ((play.make (.line contact line)).record contact turn) = none := by
            rw [record, state_make_line]
            exact Puzzle.asked_of_ruling ruling
          rw [answer?_of_message said, Puzzle.verdict_of_pending pending ruling]
          exact ⟨rfl, answers_of_asked (puzzle?_make has _) asked moves⟩

theorem uncounted_of_question
    (asked : (play.resolve contact line).1 = .preQuestion question) :
    play.Uncounted contact line := by
  have isQuestion : (play.verdict contact line).outcome.isPreQuestion = true :=
    congrArg Outcome.isPreQuestion asked
  rcases play.story.resolve_cases play.picker play.state play.now contact line with
    ⟨command, puzzle, parsed, has⟩ | ⟨outcome, unanswered, resolved⟩
  · have ruling := ruling_of_parse parsed has
    obtain ⟨question, pending⟩ := Option.isSome_iff_exists.mp
      ((Puzzle.isPreQuestion_of_ruling ruling).symm.trans isQuestion)
    have verdict := Puzzle.verdict_of_pending pending ruling
    have after := play.state_resolve contact line
    rw [verdict, GameState.performAll_setShown] at after
    refine ⟨congrArg Verdict.picker verdict, ?_, fun key => ?_⟩
    · rw [after]
      rfl
    · rw [after]
      by_cases same : key = .of contact command.turn
      · simp [same, Progress.withShown]
      · simp [same]
  · rw [show play.verdict contact line = _ from resolved] at isQuestion
    rcases unanswered with rfl | rfl | rfl <;> cases isQuestion

/-- The question before a puzzle is asked once, and before anything else.  In a new game, whatever
is played, the first line for a puzzle that has a question is answered with it, no later line for
the puzzle is, and nothing else is said of the puzzle before.  A puzzle without a question never
asks one.  The line that is answered with a question is no attempt, and nothing is chosen for it. -/
theorem question_asked_first (fresh : play.state.progress = ∅)
    (has : play.story.puzzle? contact turn = some puzzle) (moves : List Move) :
    AskedFirst puzzle.preQuestion (play.answers contact turn moves) ∧
    ∀ line question, ((play.run moves).resolve contact line).1 = .preQuestion question →
      (play.run moves).Uncounted contact line := by
  refine ⟨?_, fun line question => uncounted_of_question⟩
  have unrecorded : play.record contact turn = {} := by
    rw [record, GameState.progressOf, GameState.progress?, fresh]
    rfl
  have pending : puzzle.pendingQuestion (play.record contact turn) = puzzle.preQuestion := by
    rw [unrecorded]
    rfl
  cases asks : puzzle.preQuestion with
  | none => exact answers_of_asked has (pending.trans asks) moves
  | some question => exact answers_of_pending has (pending.trans asks) moves

def guardedPlay : Play where
  story := ({} : Story).withBundle ⟨"c1"⟩ { puzzles := [
    { Puzzle.simple ⟨1⟩ ["luce"] "Fatto." with preQuestion? := some "Sei pronto?" },
    { Puzzle.simple ⟨2⟩ ["porta"] "Esatto." with preQuestion? := some " " }] }
  store := .resume (.memory {})
  picker := .first
  now := ⟨0⟩

/-- The right answer is not heard before the question was asked. -/
theorem question_asked_first_guarded :
    let moves := [.line ⟨"c1"⟩ "T2: notte", .line ⟨"c1"⟩ "T1: luce", .clock ⟨5⟩,
      .line ⟨"c1"⟩ "T1: luce"]
    (guardedPlay.state.progress = ∅ ∧
      (guardedPlay.answers ⟨"c1"⟩ ⟨1⟩ moves).length = 2) ∧
    AskedFirst (some "Sei pronto?") (guardedPlay.answers ⟨"c1"⟩ ⟨1⟩ moves) ∧
    AskedFirst none (guardedPlay.answers ⟨"c1"⟩ ⟨2⟩ moves) ∧
    guardedPlay.Uncounted ⟨"c1"⟩ "T1: luce" := by
  intro moves
  have fresh : guardedPlay.state.progress = ∅ := by decide +kernel
  have first : guardedPlay.story.puzzle? ⟨"c1"⟩ ⟨1⟩ =
      some { Puzzle.simple ⟨1⟩ ["luce"] "Fatto." with preQuestion? := some "Sei pronto?" } := by
    decide +kernel
  have second : guardedPlay.story.puzzle? ⟨"c1"⟩ ⟨2⟩ =
      some { Puzzle.simple ⟨2⟩ ["porta"] "Esatto." with preQuestion? := some " " } := by
    decide +kernel
  have asked : ((guardedPlay.run []).resolve ⟨"c1"⟩ "T1: luce").1 =
      .preQuestion "Sei pronto?" := by decide +kernel
  have answered : (guardedPlay.answers ⟨"c1"⟩ ⟨1⟩ moves).length = 2 := by decide +kernel
  exact ⟨⟨fresh, answered⟩, (question_asked_first fresh first moves).1,
    (question_asked_first fresh second moves).1,
    (question_asked_first fresh first []).2 _ _ asked⟩

end Play

end Casefile
