import Casefile.Game.Course
import Casefile.Proofs.Game.Transcript
import Mathlib.Data.List.Basic
import Mathlib.Order.Bounds.Defs

namespace Casefile

/-!
The turn of a game is the greatest one that was reached.

Only a solution moves the turn, and never back.  The contacts that have appeared by a turn have
appeared by every later one, so that none disappears while the game goes on.
-/

namespace Turn

variable {turn next last : Turn} {first second : List Turn}

theorem le_refl (turn : Turn) : turn ≤ turn := UInt32.le_refl turn.number

theorem le_trans (before : turn ≤ next) (after : next ≤ last) : turn ≤ last :=
  UInt32.le_trans before after

theorem next_pos (turn : Turn) : 1 ≤ turn.next.number := by
  unfold Turn.next
  split
  · decide
  next room =>
    have below : turn.number.toNat ≠ 0xFFFFFFFF := fun same =>
      room (congrArg Turn.mk (UInt32.toNat.inj same))
    have bound := turn.number.toNat_lt
    have one : (1 : UInt32).toNat = 1 := rfl
    rw [UInt32.le_iff_toNat_le, UInt32.toNat_add]
    omega

theorem isGreatest_self (turn : Turn) : IsGreatest {other | other ∈ [turn]} turn :=
  ⟨List.mem_cons_self, fun _ member => List.mem_singleton.mp member ▸ le_refl turn⟩

theorem isGreatest_later (turn next : Turn) :
    IsGreatest {other | other ∈ [turn, next]} (if turn < next then next else turn) := by
  split
  next earlier =>
    refine ⟨List.mem_cons_of_mem turn List.mem_cons_self,
      List.forall_mem_cons.mpr ⟨UInt32.le_of_lt earlier, ?_⟩⟩
    exact List.forall_mem_singleton.mpr (le_refl next)
  next notEarlier =>
    refine ⟨List.mem_cons_self, List.forall_mem_cons.mpr ⟨le_refl turn, ?_⟩⟩
    exact List.forall_mem_singleton.mpr (UInt32.not_lt.mp notEarlier)

/-- The greatest turn of a whole is found part by part. -/
theorem isGreatest_append (earlier : IsGreatest {other | other ∈ turn :: first} next)
    (later : IsGreatest {other | other ∈ next :: second} last) :
    IsGreatest {other | other ∈ turn :: (first ++ second)} last := by
  have reached : next ≤ last := later.2 List.mem_cons_self
  rw [← List.cons_append]
  constructor
  · rcases List.mem_cons.mp later.1 with rfl | member
    · exact List.mem_append_left second earlier.1
    · exact List.mem_append_right (turn :: first) member
  · intro other member
    rcases List.mem_append.mp member with before | after
    · exact le_trans (earlier.2 before) reached
    · exact later.2 (List.mem_cons_of_mem next after)

end Turn

namespace Puzzle

variable {puzzle : Puzzle} {key : StatusKey} {progress : Progress} {now : Instant}
  {picker : Picker} {message : String} {verdict : Verdict}

theorem nextTurn_pos (puzzle : Puzzle) : 1 ≤ puzzle.nextTurn.number := by
  unfold nextTurn Reply.nextTurnAfter
  split
  · split
    next named => exact UInt32.le_iff_toNat_le.mpr (UInt32.lt_iff_toNat_lt.mp named)
    next => exact puzzle.turn.next_pos
  · exact puzzle.turn.next_pos

theorem isSolution_solvedOutcome (puzzle : Puzzle) : puzzle.solvedOutcome.isSolution = true := by
  rcases puzzle.solvedOutcome_cases with ⟨solved, success⟩ | ⟨text, incomplete⟩
  · rw [success]
    rfl
  · rw [incomplete]
    rfl

theorem nextTurn_of_success {solved : Solved} (success : puzzle.solvedOutcome = .success solved) :
    solved.nextTurn = puzzle.nextTurn := by
  unfold solvedOutcome at success
  dsimp only at success
  split at success
  · cases success
  · cases success
    rfl

theorem turn_of_ruling (ruling : puzzle.Ruling key progress now picker message verdict)
    (state : GameState) :
    IsGreatest {turn | turn ∈ state.turn ::
        if verdict.outcome.isSolution then [puzzle.nextTurn] else []}
      (state.performAll verdict.edits).turn := by
  cases ruling with
  | solved isOpen solves =>
      rw [GameState.performAll_solved, if_pos puzzle.isSolution_solvedOutcome]
      exact state.turn.isGreatest_later puzzle.nextTurn
  | asked | barred | hinted | failed | escalated => exact state.turn.isGreatest_self

end Puzzle

namespace Story

variable {story : Story} {picker : Picker} {state : GameState} {line : Submission}

/-- The puzzle that a line with some outcome has solved. -/
def solved? (story : Story) (outcome : Outcome) (line : Submission) : Option Puzzle :=
  if outcome.isSolution then story.addressed? line else none

theorem turn_resolve (story : Story) (picker : Picker) (state before : GameState)
    (line : Submission) :
    let verdict := story.resolve picker state line.sentAt line.contact line.text
    IsGreatest {turn | turn ∈ before.turn ::
        (story.solved? verdict.outcome line).toList.map Puzzle.nextTurn}
      (before.performAll verdict.edits).turn := by
  intro verdict
  rcases story.resolve_cases picker state line.sentAt line.contact line.text with
    ⟨command, puzzle, parsed, has⟩ | ⟨outcome, unanswered, resolved⟩
  · have meant : story.addressed? line = some puzzle := by simp [addressed?, parsed, has]
    have ruled : verdict = _ := Story.resolve_puzzle parsed has
    have greatest := Puzzle.turn_of_ruling (puzzle.receive_ruling (.of line.contact command.turn)
      (state.progressOf (.of line.contact command.turn)) line.sentAt picker command.message) before
    rw [← ruled] at greatest
    simp only [solved?, meant]
    cases solution : verdict.outcome.isSolution <;> simpa [solution] using greatest
  · have unsolved : story.solved? verdict.outcome line = none := by
      rw [show verdict = _ from resolved]
      rcases unanswered with rfl | rfl | rfl <;> rfl
    rw [unsolved, show verdict = _ from resolved]
    exact before.turn.isGreatest_self

/-- A solution is one of the puzzle that the line is for. -/
theorem solved?_resolve {solved : Solved}
    (success : (story.resolve picker state line.sentAt line.contact line.text).outcome =
      .success solved) :
    ∃ puzzle, story.solved? (.success solved) line = some puzzle ∧
      solved.nextTurn = puzzle.nextTurn := by
  have solution : (story.resolve picker state line.sentAt line.contact
      line.text).outcome.isSolution = true := by rw [success]; rfl
  obtain ⟨command, puzzle, parsed, has, _, outcome⟩ := Story.resolve_solution solution
  refine ⟨puzzle, ?_, Puzzle.nextTurn_of_success (outcome.symm.trans success)⟩
  simp [solved?, Outcome.isSolution, addressed?, parsed, has]

theorem visibleContacts_sublist (story : Story) {before after : Turn} (later : before ≤ after) :
    (story.visibleContacts before).Sublist (story.visibleContacts after) := by
  refine List.monotone_filter_right _ fun contact visible => ?_
  exact decide_eq_true (Turn.le_trans (of_decide_eq_true visible) later)

end Story

namespace Session

variable {session : Session} {call : Call} {calls : List Call}

theorem outcome_call (session : Session) (call : Call) :
    (session.call call).1 = (session.story.resolve session.picker session.store.state
      call.line.sentAt call.line.contact call.line.text).outcome := by
  cases call with
  | send line => exact session.exchange_outcome ..
  | resolve line => rfl

@[simp] theorem story_call (session : Session) (call : Call) :
    (session.call call).2.story = session.story := by
  cases call <;> rfl

@[simp] theorem story_callAll (session : Session) (calls : List Call) :
    (session.callAll calls).story = session.story := by
  induction calls generalizing session with
  | nil => rfl
  | cons call calls ih => exact (ih _).trans (session.story_call call)

/-- The puzzle that a call solves, if it solves one. -/
def solved? (session : Session) (call : Call) : Option Puzzle :=
  session.story.solved? (session.call call).1 call.line

/-- The puzzles that are solved in the course of a game, one for every solution. -/
def solvedPuzzles (session : Session) : List Call → List Puzzle
  | [] => []
  | call :: rest => (session.solved? call).toList ++ (session.call call).2.solvedPuzzles rest

theorem turn_send (session : Session) (line : Submission) :
    ∃ before : GameState, before.turn = session.store.state.turn ∧
      (session.send line).2.store.state.turn =
        (before.performAll (session.story.resolve session.picker session.store.state line.sentAt
          line.contact line.text).edits).turn := by
  refine ⟨_, session.turn_say session.ids line.contact (compose · line.text .user line.sentAt)
    session.store.state, ?_⟩
  simp [send, exchange_edits]

theorem turn_call (session : Session) (call : Call) :
    IsGreatest {turn | turn ∈ session.store.state.turn ::
        (session.solved? call).toList.map Puzzle.nextTurn}
      (session.call call).2.store.state.turn := by
  rw [solved?, outcome_call]
  cases call with
  | send line =>
      obtain ⟨before, same, after⟩ := session.turn_send line
      rw [show (session.call (.send line)).2.store.state.turn = _ from after, ← same]
      exact session.story.turn_resolve session.picker session.store.state before line
  | resolve line =>
      have after := (session.play line.sentAt).state_resolve line.contact line.text
      rw [show (session.call (.resolve line)).2.store.state = _ from after]
      exact session.story.turn_resolve session.picker session.store.state session.store.state line

theorem turn_callAll (session : Session) (calls : List Call) :
    IsGreatest {turn | turn ∈ session.store.state.turn ::
        (session.solvedPuzzles calls).map Puzzle.nextTurn}
      (session.callAll calls).store.state.turn := by
  induction calls generalizing session with
  | nil => exact session.store.state.turn.isGreatest_self
  | cons call calls ih =>
      rw [solvedPuzzles, List.map_append]
      exact Turn.isGreatest_append (session.turn_call call) (ih (session.call call).2)

theorem callAll_append (session : Session) (calls later : List Call) :
    session.callAll (calls ++ later) = (session.callAll calls).callAll later :=
  List.foldl_append

/-- The global turn is the greatest one that was ever reached: the one in which the game began, or
one that follows a puzzle that was solved since, however often and in whatever order.  A success
names the turn that follows the puzzle, which is never turn zero.  The contacts that have appeared
stay, in their order. -/
theorem turn_greatest (session : Session) (calls later : List Call) :
    let after := session.callAll calls
    IsGreatest {turn | turn ∈ session.store.state.turn ::
        (session.solvedPuzzles calls).map Puzzle.nextTurn} after.store.state.turn ∧
    (∀ call solved, (after.call call).1 = .success solved → 1 ≤ solved.nextTurn.number ∧
      ∃ puzzle, after.solved? call = some puzzle ∧ solved.nextTurn = puzzle.nextTurn) ∧
    after.visibleContacts.Sublist (session.callAll (calls ++ later)).visibleContacts := by
  intro after
  refine ⟨session.turn_callAll calls, ?_, ?_⟩
  · intro call solved success
    have outcome := success
    rw [outcome_call] at outcome
    obtain ⟨puzzle, has, next⟩ := Story.solved?_resolve outcome
    refine ⟨next ▸ puzzle.nextTurn_pos, puzzle, ?_, next⟩
    rw [solved?, success]
    exact has
  · have forward : after.store.state.turn ≤ (after.callAll later).store.state.turn :=
      (after.turn_callAll later).2 List.mem_cons_self
    simpa [callAll_append, visibleContacts, after] using
      after.story.visibleContacts_sublist forward

def leapingPuzzle : Puzzle where
  turn := ⟨1⟩
  solution := { keywords := ["luce"], reply := { text := "Fatto.", nextTurn? := some ⟨5⟩ } }

def leapingSession : Session where
  story := {
    bundles := ({} : Story).bundles.insert ⟨"c1"⟩
      { puzzles := [leapingPuzzle, .simple ⟨2⟩ ["ombra"] "Bene."] }
    contacts := [{ id := ⟨"c2"⟩, file := "c2.json", visibleAt := ⟨5⟩ },
      { id := ⟨"c1"⟩, file := "c1.json" }] }
  store := .resume (.memory {})
  picker := .first
  notifier := .silent
  ids := .ofSeed 0

/-- A solution that leaps ahead, and after it one of a puzzle that was left behind. -/
theorem turn_greatest_left_behind :
    let session := leapingSession
    let first := { sentAt := ⟨0⟩, contact := ⟨"c1"⟩, text := "T1: luce" }
    let second := { sentAt := ⟨0⟩, contact := ⟨"c1"⟩, text := "T2: ombra" }
    let after := session.callAll [.send first, .resolve second]
    let solved : Solved := { text := "Bene.", nextTurn := ⟨3⟩ }
    IsGreatest {turn | turn ∈ [⟨1⟩, ⟨5⟩, ⟨3⟩]} after.store.state.turn ∧
      ((after.call (.send second)).1 = .success solved ∧ 1 ≤ solved.nextTurn.number) ∧
      session.visibleContacts.Sublist after.visibleContacts := by
  intro session first second after solved
  have reached : (session.solvedPuzzles [.send first, .resolve second]).map Puzzle.nextTurn =
      [⟨5⟩, ⟨3⟩] := by decide +kernel
  have success : (after.call (.send second)).1 = .success solved := by decide +kernel
  obtain ⟨greatest, names, _⟩ := turn_greatest session [.send first, .resolve second] []
  obtain ⟨_, _, appeared⟩ := turn_greatest session [] [.send first, .resolve second]
  rw [reached] at greatest
  exact ⟨greatest, ⟨success, (names _ solved success).1⟩, appeared⟩

end Session

end Casefile
