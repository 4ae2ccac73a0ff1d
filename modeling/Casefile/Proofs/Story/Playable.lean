import Casefile.Proofs.Game.Command
import Casefile.Proofs.Game.Keywords
import Casefile.Proofs.Game.Ruling
import Casefile.Proofs.Story.Lint

namespace Casefile

/-!
Which puzzles of a story without issues can be solved.

The message that solves a puzzle is made of its keywords with spaces between them.  It works when
each keyword is a single word; when one is not, no message works, and the lint says nothing of it.
-/

namespace Puzzle

variable {puzzle : Puzzle} {key : StatusKey} {progress : Progress} {now : Instant}
  {picker : Picker} {message : String}

theorem outcome_of_solvedBy (isOpen : puzzle.isOpen progress now = true)
    (solves : puzzle.solvedBy message = true) :
    (puzzle.receive key progress now picker message).outcome = puzzle.solvedOutcome := by
  rw [receive_of_solvedBy isOpen solves]

/-- Each keyword is, in lower case, a single word, so that a message can mention it. -/
def Sayable (puzzle : Puzzle) : Prop :=
  ∀ keyword ∈ puzzle.solution.keywords, Words.IsWord (Text.lower keyword)

def answer (puzzle : Puzzle) : String := " ".intercalate puzzle.solution.keywords

theorem sayable_of_solvedBy (solves : puzzle.solvedBy message = true) : puzzle.Sayable :=
  fun keyword member => Words.isWord_of_mentions (List.all_eq_true.mp solves keyword member)

theorem solvedBy_answer (sayable : puzzle.Sayable) : puzzle.solvedBy puzzle.answer = true :=
  Words.mentionsAll_joined sayable

theorem parse_answer (sayable : puzzle.Sayable) (asked : puzzle.solution.keywords ≠ [])
    (turn : Turn) :
    Command.parse (Command.written turn puzzle.answer) =
      some { turn, message := puzzle.answer } := by
  refine Command.parse_written_joined turn asked fun keyword listed => ⟨?_, ?_⟩
  · rintro rfl
    exact (sayable "" listed).1 rfl
  · exact Text.unblank_of_word (by simpa [Text.lower] using (sayable keyword listed).2)

end Puzzle

namespace Story

variable {story : Story} {contact : ContactId} {turn : Turn} {puzzle : Puzzle}

theorem keywords_of_clean (clean : story.lint = [])
    (has : story.puzzle? contact turn = some puzzle) : puzzle.solution.keywords ≠ [] := by
  intro unasked
  have listed := mem_lint has (emptySolution_of_no_keywords unasked)
  simp [clean] at listed

theorem success_of_clean (clean : story.lint = [])
    (has : story.puzzle? contact turn = some puzzle) :
    ∃ solved, puzzle.solvedOutcome = .success solved := by
  rw [Puzzle.solvedOutcome]
  cases complete : puzzle.delivery with
  | ok delivery? => exact ⟨_, rfl⟩
  | error missing =>
      have listed := mem_lint has (incompleteNotice_of_delivery complete)
      simp [clean] at listed

/-- A puzzle that a message solves with success has no keywords but single words. -/
theorem sayable_of_success {picker : Picker} {state : GameState} {now : Instant}
    {message : String} {solved : Solved} (has : story.puzzle? contact turn = some puzzle)
    (success : (story.resolve picker state now contact (Command.written turn message)).outcome =
      .success solved) : puzzle.Sayable := by
  have solves : (story.resolve picker state now contact
      (Command.written turn message)).outcome.isSolution = true := by
    rw [success]
    rfl
  obtain ⟨command, found, parsed, hasFound, solvedBy, _⟩ := resolve_solution solves
  rw [Command.turn_of_written parsed, has] at hasFound
  obtain rfl := Option.some.inj hasFound
  exact Puzzle.sayable_of_solvedBy solvedBy

theorem resolve_answer (clean : story.lint = []) (has : story.puzzle? contact turn = some puzzle)
    (sayable : puzzle.Sayable) {state : GameState} {now : Instant}
    (asked : puzzle.pendingQuestion (state.progressOf (.of contact turn)) = none)
    (unlocked : state.isLocked (.of contact turn) now = false) (picker : Picker) :
    (story.resolve picker state now contact (Command.written turn puzzle.answer)).outcome =
      puzzle.solvedOutcome := by
  have parsed := Puzzle.parse_answer sayable (keywords_of_clean clean has) turn
  rw [resolve_puzzle parsed has]
  exact Puzzle.outcome_of_solvedBy (Puzzle.isOpen_iff.mpr ⟨asked, unlocked⟩)
    (Puzzle.solvedBy_answer sayable)

/-- In a story without issues, a puzzle whose keywords are single words is solved with success by
one message in every state in which no question of it is still to be asked and it is not locked.  A
puzzle with any other keyword is never solved with success. -/
theorem playable_of_clean (clean : story.lint = [])
    (has : story.puzzle? contact turn = some puzzle) :
    (puzzle.Sayable → ∃ message, ∀ picker state now,
      puzzle.pendingQuestion (state.progressOf (.of contact turn)) = none →
      state.isLocked (.of contact turn) now = false →
      ∃ solved, (story.resolve picker state now contact (Command.written turn message)).outcome =
        .success solved) ∧
    (∀ picker state now message solved,
      (story.resolve picker state now contact (Command.written turn message)).outcome =
        .success solved → puzzle.Sayable) := by
  refine ⟨fun sayable => ⟨puzzle.answer, fun picker state now asked unlocked => ?_⟩, ?_⟩
  · rw [resolve_answer clean has sayable asked unlocked]
    exact success_of_clean clean has
  · exact fun picker state now message solved success => sayable_of_success has success

def street : Puzzle := Puzzle.simple ⟨1⟩ ["Via", "ROMA"] "Esatto."

def district : Puzzle := Puzzle.simple ⟨1⟩ ["centro storico"] "Esatto."

def asking (puzzle : Puzzle) : Story := ({} : Story).withBundle ⟨"c1"⟩ { puzzles := [puzzle] }

/-- A fresh game in which the question of the first puzzle was asked. -/
def asked : GameState := ({} : GameState).revise (.of ⟨"c1"⟩ ⟨1⟩) (Progress.withShown · true)

theorem asked_shown : asked.isPreQuestionShown (.of ⟨"c1"⟩ ⟨1⟩) = true ∧
    asked.isLocked (.of ⟨"c1"⟩ ⟨1⟩) ⟨0⟩ = false := by decide +kernel

/-- One message solves the puzzle in a new game, and where its question was asked. -/
theorem playable_of_clean_street :
    (asking street).lint = [] ∧ (asking street).puzzle? ⟨"c1"⟩ ⟨1⟩ = some street ∧
    street.Sayable ∧
    (∃ message, ∀ state ∈ [({} : GameState), asked],
      street.pendingQuestion (state.progressOf (.of ⟨"c1"⟩ ⟨1⟩)) = none ∧
      state.isLocked (.of ⟨"c1"⟩ ⟨1⟩) ⟨0⟩ = false ∧ ∃ solved,
        ((asking street).resolve .first state ⟨0⟩ ⟨"c1"⟩ (Command.written ⟨1⟩ message)).outcome =
          .success solved) ∧
    ∃ solved, ((asking street).resolve .first {} ⟨0⟩ ⟨"c1"⟩
        (Command.written ⟨1⟩ "in via Roma")).outcome = .success solved := by
  have clean : (asking street).lint = [] := by decide +kernel
  have has : (asking street).puzzle? ⟨"c1"⟩ ⟨1⟩ = some street := by decide +kernel
  have solved : ((asking street).resolve .first {} ⟨0⟩ ⟨"c1"⟩
      (Command.written ⟨1⟩ "in via Roma")).outcome =
        .success { text := "Esatto.", nextTurn := ⟨2⟩ } := by decide +kernel
  obtain ⟨playable, needed⟩ := playable_of_clean clean has
  have sayable : street.Sayable := needed _ _ _ _ _ solved
  have ready : ∀ state ∈ [({} : GameState), asked],
      street.pendingQuestion (state.progressOf (.of ⟨"c1"⟩ ⟨1⟩)) = none ∧
        state.isLocked (.of ⟨"c1"⟩ ⟨1⟩) ⟨0⟩ = false := by decide +kernel
  obtain ⟨message, solves⟩ := playable sayable
  refine ⟨clean, has, sayable, ⟨message, fun state member => ?_⟩, _, solved⟩
  obtain ⟨asksNothing, unlocked⟩ := ready state member
  exact ⟨asksNothing, unlocked, solves _ _ _ asksNothing unlocked⟩

/-- A keyword of two words, which no issue is about, makes a puzzle that nothing solves. -/
theorem clean_unplayable_district :
    (asking district).lint = [] ∧ (asking district).puzzle? ⟨"c1"⟩ ⟨1⟩ = some district ∧
    asked.isPreQuestionShown (.of ⟨"c1"⟩ ⟨1⟩) = true ∧
    asked.isLocked (.of ⟨"c1"⟩ ⟨1⟩) ⟨0⟩ = false ∧
    ∀ message picker state now solved,
      ((asking district).resolve picker state now ⟨"c1"⟩ (Command.written ⟨1⟩ message)).outcome ≠
        .success solved := by
  have clean : (asking district).lint = [] := by decide +kernel
  have has : (asking district).puzzle? ⟨"c1"⟩ ⟨1⟩ = some district := by decide +kernel
  have twoWords : ¬ Words.IsWord (Text.lower "centro storico") := by decide +kernel
  refine ⟨clean, has, asked_shown.1, asked_shown.2, ?_⟩
  intro message picker state now solved success
  exact twoWords (sayable_of_success has success _ (List.mem_singleton_self _))

end Story

end Casefile
