import Casefile.Proofs.Game.Record

namespace Casefile

/-!
Different puzzles do not meet.

What a line comes to is decided by the record of its puzzle and by the clock, apart from the texts
that a picker chooses; nothing else in the state is looked at.  The edits that it makes are made for
its puzzle, so those of two puzzles can be made in either order.
-/

/-- The outcome without a text that a picker chose.  Outcomes with the same rest are of the same
kind, and equal unless both are a failure or both are a lock. -/
def Outcome.unpicked : Outcome → Outcome
  | .locked _ => .locked ""
  | .fail _ => .fail ""
  | outcome => outcome

/-- Two verdicts that differ in the choices of a picker alone. -/
structure Verdict.Alike (first second : Verdict) : Prop where
  outcome : first.outcome.unpicked = second.outcome.unpicked
  edits : first.edits = second.edits

namespace Puzzle

variable {puzzle : Puzzle} {key : StatusKey} {progress : Progress} {now : Instant}
  {message : String}

theorem failed_alike (first second : Picker) :
    (puzzle.failed key progress now first).Alike (puzzle.failed key progress now second) := by
  unfold failed
  by_cases reached : puzzle.attemptLimit ≤ progress.failedOnce.failedAttempts
  · simp only [reached, if_true]
    exact ⟨rfl, rfl⟩
  · simp only [reached, if_false]
    exact ⟨rfl, rfl⟩

theorem judge_alike (first second : Picker) :
    (puzzle.judge key progress now first message).Alike
      (puzzle.judge key progress now second message) := by
  unfold judge
  dsimp only
  split
  · exact ⟨rfl, rfl⟩
  · split
    · exact ⟨rfl, rfl⟩
    · exact failed_alike first second

theorem receive_alike (first second : Picker) :
    (puzzle.receive key progress now first message).Alike
      (puzzle.receive key progress now second message) := by
  unfold receive
  split
  · exact ⟨rfl, rfl⟩
  · split
    · exact ⟨rfl, rfl⟩
    · exact judge_alike first second

theorem Ruling.madeFor {picker : Picker} {verdict : Verdict}
    (ruling : puzzle.Ruling key progress now picker message verdict) :
    ∀ edit ∈ verdict.edits, edit.MadeFor key := by
  have failure : (Edit.countFailure key).MadeFor key := .record Progress.failedOnce fun _ => rfl
  cases ruling with
  | asked question pending =>
      exact List.forall_mem_singleton.mpr (.record (Progress.withShown · true) fun _ => rfl)
  | barred asked locked => exact List.forall_mem_nil _
  | solved isOpen solves =>
      exact List.forall_mem_cons.mpr ⟨.turn puzzle.nextTurn rfl,
        List.forall_mem_singleton.mpr (.record Progress.cleared fun _ => rfl)⟩
  | hinted isOpen unsolved hint near => exact List.forall_mem_nil _
  | failed isOpen wrong within => exact List.forall_mem_singleton.mpr failure
  | escalated isOpen wrong reached after picked =>
      exact List.forall_mem_cons.mpr ⟨failure,
        List.forall_mem_singleton.mpr
          (.record (Progress.lockedUntil · (puzzle.lockDeadline now)) fun _ => rfl)⟩

end Puzzle

namespace GameState

variable {state other : GameState} {key elsewhere : StatusKey} {edit : Edit} {edits : List Edit}

/-! An edit that is made for a puzzle reads the record of that puzzle, and writes no other. -/

theorem progress?_perform_congr (made : edit.MadeFor key)
    (same : other.progress? key = state.progress? key) :
    (edit.perform other).progress? key = (edit.perform state).progress? key := by
  cases made with
  | record change revises =>
      rw [revises, revises, progress?_revise, progress?_revise, progressOf, progressOf, same]
  | turn turn advances =>
      rw [advances, Edit.perform_advance, Edit.perform_advance]
      exact same

theorem progress?_performAll_congr (made : ∀ edit ∈ edits, edit.MadeFor key)
    (same : other.progress? key = state.progress? key) :
    (other.performAll edits).progress? key = (state.performAll edits).progress? key := by
  induction edits generalizing state other with
  | nil => exact same
  | cons edit edits ih =>
      obtain ⟨first, rest⟩ := List.forall_mem_cons.mp made
      exact ih rest (progress?_perform_congr first same)

theorem progress?_perform_of_ne (made : edit.MadeFor key) (different : elsewhere ≠ key) :
    (edit.perform state).progress? elsewhere = state.progress? elsewhere := by
  cases made with
  | record change revises => rw [revises, progress?_revise, if_neg different]
  | turn turn advances =>
      rw [advances, Edit.perform_advance]
      rfl

theorem progress?_performAll_of_ne (made : ∀ edit ∈ edits, edit.MadeFor key)
    (different : elsewhere ≠ key) :
    (state.performAll edits).progress? elsewhere = state.progress? elsewhere := by
  induction edits generalizing state with
  | nil => rfl
  | cons edit edits ih =>
      obtain ⟨first, rest⟩ := List.forall_mem_cons.mp made
      exact (ih rest).trans (progress?_perform_of_ne first different)

end GameState

theorem Story.resolve_no_puzzle {story : Story} {picker : Picker} {state : GameState}
    {now : Instant} {contact : ContactId} {line : String} {command : Command}
    (parsed : Command.parse line = some command)
    (missing : story.puzzle? contact command.turn = none) :
    story.resolve picker state now contact line =
      { outcome := if story.hasContact contact then .puzzleNotFound else .contactNotFound
        edits := []
        picker } := by
  have listed : story.hasContact contact = (story.bundle? contact).isSome := rfl
  cases bundled : story.bundle? contact with
  | none => simp [Story.resolve, parsed, listed, bundled]
  | some bundle =>
      have absent : bundle.puzzle? command.turn = none := by
        simpa [Story.puzzle?, bundled] using missing
      simp [Story.resolve, parsed, listed, bundled, absent]

namespace Play

variable {play other : Play} {contact addressee : ContactId} {line next : String}
  {command following : Command}

/-- Two plays agree about a puzzle: they have the same one, with the same record, at the same
time. -/
structure AgreeOn (play other : Play) (contact : ContactId) (turn : Turn) : Prop where
  now : other.now = play.now
  listed : other.story.hasContact contact = play.story.hasContact contact
  puzzle : other.story.puzzle? contact turn = play.story.puzzle? contact turn
  record : other.state.progress? (.of contact turn) = play.state.progress? (.of contact turn)

theorem verdict_alike (agree : play.AgreeOn other contact command.turn)
    (parsed : Command.parse line = some command) :
    (other.verdict contact line).Alike (play.verdict contact line) := by
  unfold verdict
  cases has : play.story.puzzle? contact command.turn with
  | some puzzle =>
      have hasThere := agree.puzzle.trans has
      rw [Story.resolve_puzzle parsed has, Story.resolve_puzzle parsed hasThere,
        GameState.progressOf, GameState.progressOf, agree.record, agree.now]
      exact Puzzle.receive_alike _ _
  | none =>
      have missingThere := agree.puzzle.trans has
      rw [Story.resolve_no_puzzle parsed has, Story.resolve_no_puzzle parsed missingThere,
        agree.listed]
      exact ⟨rfl, rfl⟩

theorem edits_madeFor (parsed : Command.parse line = some command) :
    ∀ edit ∈ (play.verdict contact line).edits, edit.MadeFor (.of contact command.turn) := by
  cases has : play.story.puzzle? contact command.turn with
  | some puzzle => exact (ruling_of_parse parsed has).madeFor
  | none =>
      rw [verdict, Story.resolve_no_puzzle parsed has]
      exact List.forall_mem_nil _

theorem resolve_alike (agree : play.AgreeOn other contact command.turn)
    (parsed : Command.parse line = some command) :
    (other.resolve contact line).1.unpicked = (play.resolve contact line).1.unpicked ∧
      (other.resolve contact line).2.state.progress? (.of contact command.turn) =
        (play.resolve contact line).2.state.progress? (.of contact command.turn) := by
  obtain ⟨sameOutcome, sameEdits⟩ := verdict_alike agree parsed
  refine ⟨sameOutcome, ?_⟩
  rw [state_resolve, state_resolve, sameEdits]
  exact GameState.progress?_performAll_congr (edits_madeFor parsed) agree.record

/-- A line for one puzzle changes nothing that matters to another. -/
theorem agreeOn_resolve (sameStory : other.story = play.story)
    (sameState : other.state = play.state) (sameNow : other.now = play.now)
    (parsed : Command.parse line = some command)
    (apart : StatusKey.of addressee following.turn ≠ .of contact command.turn) :
    play.AgreeOn (other.resolve contact line).2 addressee following.turn where
  now := sameNow
  listed := congrArg (·.hasContact addressee) sameStory
  puzzle := congrArg (·.puzzle? addressee following.turn) sameStory
  record := by
    rw [state_resolve, GameState.progress?_performAll_of_ne (edits_madeFor parsed) apart,
      sameState]

/-- Different puzzles are independent.  Two lines for two of them lead to the same state in either
order, each with the same outcome up to a text that a picker chooses.  And what a line comes to, and
what it leaves in the record of its puzzle, is the same in any two plays that agree about that
puzzle, whatever their turns, chats, other records and pickers. -/
theorem puzzles_independent (sameStory : other.story = play.story)
    (sameState : other.state = play.state) (sameNow : other.now = play.now)
    (parsed : Command.parse line = some command)
    (parsedNext : Command.parse next = some following)
    (apart : (contact, command.turn) ≠ (addressee, following.turn)) :
    let forth := (play.resolve contact line).2.resolve addressee next
    let back := (other.resolve addressee next).2.resolve contact line
    (forth.2.state = back.2.state ∧
      (play.resolve contact line).1.unpicked = back.1.unpicked ∧
      forth.1.unpicked = (other.resolve addressee next).1.unpicked) ∧
    ∀ stranger, play.AgreeOn stranger contact command.turn →
      (stranger.resolve contact line).1.unpicked = (play.resolve contact line).1.unpicked ∧
        (stranger.resolve contact line).2.state.progress? (.of contact command.turn) =
          (play.resolve contact line).2.state.progress? (.of contact command.turn) := by
  intro forth back
  have keys : StatusKey.of addressee following.turn ≠ .of contact command.turn := by
    intro same
    obtain ⟨sameContact, sameTurn⟩ := StatusKey.parts_of_eq same
    exact apart (by rw [sameContact, sameTurn])
  have agreeNext : other.AgreeOn (play.resolve contact line).2 addressee following.turn :=
    agreeOn_resolve sameStory.symm sameState.symm sameNow.symm parsed keys
  have agreeFirst : play.AgreeOn (other.resolve addressee next).2 contact command.turn :=
    agreeOn_resolve sameStory sameState sameNow parsedNext keys.symm
  obtain ⟨outcomeNext, editsNext⟩ := verdict_alike agreeNext parsedNext
  obtain ⟨outcomeFirst, editsFirst⟩ := verdict_alike agreeFirst parsed
  refine ⟨⟨?_, outcomeFirst.symm, outcomeNext⟩, fun stranger agree => resolve_alike agree parsed⟩
  calc forth.2.state
      = (play.state.performAll (play.verdict contact line).edits).performAll
          (other.verdict addressee next).edits := by
        rw [state_resolve, state_resolve, editsNext]
    _ = (play.state.performAll (other.verdict addressee next).edits).performAll
          (play.verdict contact line).edits :=
        Edit.performAll_comm (edits_madeFor parsed) (edits_madeFor parsedNext) keys _
    _ = back.2.state := by
        rw [state_resolve, state_resolve, editsFirst, sameState]

/-- Two contacts whose names run into each other: their puzzles are kept as `c1_2` and `c1_2_1`. -/
def neighbours : Play where
  story := (({} : Story).withBundle ⟨"c1"⟩
    { puzzles := [{ Puzzle.simple ⟨2⟩ ["luce"] "Fatto." with maxAttempts := 1 }] }).withBundle
      ⟨"c1_2"⟩ { puzzles := [Puzzle.simple ⟨1⟩ ["ombra"] "Esatto."] }
  store := { state := {}, vault := .memory {} }
  picker := .first
  now := ⟨0⟩

theorem puzzles_independent_neighbours :
    let other := { neighbours with picker := { sequence := [1] } }
    let forth := (neighbours.resolve ⟨"c1"⟩ "T2: notte").2.resolve ⟨"c1_2"⟩ "T1: ombra"
    let back := (other.resolve ⟨"c1_2"⟩ "T1: ombra").2.resolve ⟨"c1"⟩ "T2: notte"
    let stranger := { neighbours with store := { state := { turn := ⟨7⟩ }, vault := .memory {} } }
    (forth.2.state = back.2.state ∧
      (neighbours.resolve ⟨"c1"⟩ "T2: notte").1.unpicked = back.1.unpicked ∧
      forth.1.unpicked = (other.resolve ⟨"c1_2"⟩ "T1: ombra").1.unpicked) ∧
    (stranger.resolve ⟨"c1"⟩ "T2: notte").1.unpicked =
        (neighbours.resolve ⟨"c1"⟩ "T2: notte").1.unpicked ∧
      (stranger.resolve ⟨"c1"⟩ "T2: notte").2.state.progress? ⟨"c1_2"⟩ =
        (neighbours.resolve ⟨"c1"⟩ "T2: notte").2.state.progress? ⟨"c1_2"⟩ := by
  intro other forth back stranger
  have parsed : Command.parse "T2: notte" = some { turn := ⟨2⟩, message := "notte" } := by
    decide +kernel
  have parsedNext : Command.parse "T1: ombra" = some { turn := ⟨1⟩, message := "ombra" } := by
    decide +kernel
  obtain ⟨swapped, alike⟩ := @puzzles_independent neighbours other ⟨"c1"⟩ ⟨"c1_2"⟩ _ _ _ _
    rfl rfl rfl parsed parsedNext (by decide)
  exact ⟨swapped, alike stranger ⟨rfl, rfl, rfl, rfl⟩⟩

end Play

end Casefile
