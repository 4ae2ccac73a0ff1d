import Casefile.Game.Endurance
import Casefile.Proofs.Game.Effects
import Casefile.Proofs.Game.Independence
import Casefile.Proofs.Game.Picker

namespace Casefile

/-!
Chance decides on words alone.

Two plays that differ in their pickers stay one game: the pickers may drift apart, but each line
makes the same edits and comes to the same outcome, up to a text that the puzzle offers for it.
-/

namespace Play

/-- Two plays that differ in their pickers alone. -/
structure SameGame (play other : Play) : Prop where
  story : other.story = play.story
  store : other.store = play.store
  now : other.now = play.now

/-- The text of a failure or of a lock is one that the puzzle offers for it. -/
def Worded (play : Play) (contact : ContactId) (line : String) : Outcome → Prop
  | .fail text => ∃ key puzzle, play.Reaches contact line key puzzle ∧
    Choosable puzzle.fallbacks Puzzle.fallbackText text
  | .locked text => ∃ key puzzle, play.Reaches contact line key puzzle ∧
    Choosable puzzle.penaltyResponses
      (if play.state.isLocked key play.now then Puzzle.cooldownText else Puzzle.lockoutText) text
  | _ => True

variable {play other : Play}

theorem worded_of_ruling {contact : ContactId} {line message : String} {key : StatusKey}
    {puzzle : Puzzle} (reaches : play.Reaches contact line key puzzle)
    (ruling : puzzle.Ruling key (play.state.progressOf key) play.now play.picker message
      (play.verdict contact line)) :
    play.Worded contact line (play.verdict contact line).outcome := by
  generalize play.verdict contact line = verdict at ruling
  cases ruling with
  | asked question pending => trivial
  | barred asked locked =>
      have isLocked : play.state.isLocked key play.now = true := locked
      refine ⟨key, puzzle, reaches, ?_⟩
      rw [if_pos isLocked]
      exact play.picker.choosable_pickText ..
  | solved isOpen solves =>
      rcases puzzle.solvedOutcome_cases with ⟨solved, success⟩ | ⟨text, incomplete⟩
      · rw [success]
        trivial
      · rw [incomplete]
        trivial
  | hinted isOpen unsolved hint near => trivial
  | failed isOpen wrong within =>
      exact ⟨key, puzzle, reaches, play.picker.choosable_pickText ..⟩
  | escalated isOpen wrong reached after picked =>
      have isUnlocked : ¬ play.state.isLocked key play.now = true :=
        Bool.eq_false_iff.mp (Puzzle.isOpen_iff.mp isOpen).2
      refine ⟨key, puzzle, reaches, ?_⟩
      rw [if_neg isUnlocked]
      exact after.choosable_pickText ..

theorem worded_resolve (play : Play) (contact : ContactId) (line : String) :
    play.Worded contact line (play.resolve contact line).1 := by
  rcases play.story.resolve_cases play.picker play.state play.now contact line with
    ⟨command, puzzle, parsed, has⟩ | ⟨outcome, unanswered, resolved⟩
  · exact worded_of_ruling ⟨command, parsed, rfl, has⟩ (ruling_of_parse parsed has)
  · rw [show (play.resolve contact line).1 = outcome from congrArg Verdict.outcome resolved]
    rcases unanswered with rfl | rfl | rfl <;> trivial

namespace SameGame

theorem verdict (same : play.SameGame other) (contact : ContactId) (line : String) :
    (other.verdict contact line).Alike (play.verdict contact line) := by
  cases parsed : Command.parse line with
  | none =>
      simp only [Play.verdict, Story.resolve, parsed]
      exact ⟨rfl, rfl⟩
  | some command =>
      refine verdict_alike ⟨same.now, ?_, ?_, ?_⟩ parsed
      · rw [same.story]
      · rw [same.story]
      · rw [state, same.store, state]

theorem resolve (same : play.SameGame other) (contact : ContactId) (line : String) :
    (other.resolve contact line).1.unpicked = (play.resolve contact line).1.unpicked ∧
      (play.resolve contact line).2.SameGame (other.resolve contact line).2 := by
  obtain ⟨outcome, edits⟩ := same.verdict contact line
  refine ⟨outcome, same.story, ?_, same.now⟩
  simp only [Play.resolve, edits, same.store]

theorem make (same : play.SameGame other) (move : Move) :
    (play.make move).SameGame (other.make move) := by
  cases move with
  | line contact text => exact (same.resolve contact text).2
  | clock now => exact ⟨same.story, same.store, rfl⟩

theorem run (same : play.SameGame other) (moves : List Move) :
    (play.run moves).SameGame (other.run moves) := by
  induction moves generalizing play other with
  | nil => exact same
  | cons move moves ih => exact ih (same.make move)

theorem eventAttempts (same : play.SameGame other) (move : Move) :
    other.eventAttempts (.move move) = play.eventAttempts (.move move) := by
  cases move with
  | line contact text =>
      rw [Play.eventAttempts, same.store, (same.verdict contact text).edits, Play.eventAttempts]
  | clock now => rfl

theorem ledger (same : play.SameGame other) (moves : List Move) :
    other.ledger (moves.map .move) = play.ledger (moves.map .move) := by
  induction moves generalizing play other with
  | nil => rfl
  | cons move moves ih =>
      have meets : ∀ play : Play, (play.meet (.move move)).2 = play.make move := by
        intro play
        cases move <;> rfl
      simp only [List.map_cons, Play.ledger, meets, same.eventAttempts move, ih (same.make move)]

end SameGame

/-- Chance decides on words alone.  With any two pickers, the same moves leave the same store, after
the same attempts to save, and the next line comes to the same outcome, apart from a text of a
failure or a lock; that text is one that the puzzle offers, or the fixed one where it offers
none. -/
theorem chance_words_only (play : Play) (picker : Picker) (moves : List Move) :
    let other := { play with picker }
    let here := play.run moves
    let there := other.run moves
    there.store = here.store ∧
    other.ledger (moves.map .move) = play.ledger (moves.map .move) ∧
    ∀ contact line,
      (there.resolve contact line).1.unpicked = (here.resolve contact line).1.unpicked ∧
      here.Worded contact line (here.resolve contact line).1 ∧
      there.Worded contact line (there.resolve contact line).1 := by
  intro other here there
  have begun : play.SameGame other := ⟨rfl, rfl, rfl⟩
  have same : here.SameGame there := begun.run moves
  refine ⟨same.store, begun.ledger moves, fun contact line => ⟨?_, ?_, ?_⟩⟩
  · exact (same.resolve contact line).1
  · exact here.worded_resolve contact line
  · exact there.worded_resolve contact line

/-- The words of a failure do depend on the picker. -/
example :
    let puzzle := { Puzzle.simple ⟨1⟩ ["luce"] "Fatto." with fallbacks := ["No.", "Riprova."] }
    let play := Play.mk (({} : Story).withBundle ⟨"c1"⟩ { puzzles := [puzzle] })
      (.resume (.memory {})) .first ⟨0⟩
    (play.resolve ⟨"c1"⟩ "T1: ombra").1 = .fail "No." ∧
      ({ play with picker := { sequence := [1] } }.resolve ⟨"c1"⟩ "T1: ombra").1 =
        .fail "Riprova." := by
  decide +kernel

end Play

end Casefile
