import Casefile.Proofs.Game.Record

namespace Casefile

/-!
The wrong answers to a puzzle are counted exactly.

The stored number is what was stored when the count began, and every wrong answer since.  A count
begins with the play, and again with every solution and every lock that a wrong answer sets.
-/

/-- Whether an outcome of an open puzzle makes the count of wrong answers start again. -/
def Outcome.endsCount : Outcome → Bool
  | .success _ | .configError _ | .locked _ => true
  | _ => false

namespace Puzzle

variable {puzzle : Puzzle} {state : GameState} {key : StatusKey} {now : Instant}
  {picker : Picker} {message : String} {verdict : Verdict}

theorem misses_eq_false_of_solvedBy (solves : puzzle.solvedBy message = true) :
    puzzle.misses message = false := by
  simp [misses, solves]

theorem endsCount_solvedOutcome (puzzle : Puzzle) : puzzle.solvedOutcome.endsCount = true := by
  rcases puzzle.solvedOutcome_cases with ⟨solved, success⟩ | ⟨text, incomplete⟩
  · rw [success]
    rfl
  · rw [incomplete]
    rfl

theorem attempts_of_ruling
    (ruling : puzzle.Ruling key (state.progressOf key) now picker message verdict) :
    ((state.performAll verdict.edits).progressOf key).failedAttempts.toNat =
      if puzzle.isOpen (state.progressOf key) now && verdict.outcome.endsCount then 0
      else if puzzle.isOpen (state.progressOf key) now && puzzle.misses message then
        (state.progressOf key).failedAttempts.toNat + 1
      else (state.progressOf key).failedAttempts.toNat := by
  cases ruling with
  | asked question pending =>
      have shut : puzzle.isOpen (state.progressOf key) now = false := by simp [isOpen, pending]
      simp [shut, Progress.withShown]
  | barred asked locked =>
      have shut : puzzle.isOpen (state.progressOf key) now = false := by simp [isOpen, locked]
      simp [shut]
  | solved isOpen solves =>
      simp [isOpen, endsCount_solvedOutcome, Progress.cleared]
  | hinted isOpen unsolved hint near =>
      have hit : puzzle.misses message = false := by simp [misses, near]
      simp [hit, Outcome.endsCount]
  | failed isOpen wrong within =>
      simp [isOpen, wrong, Outcome.endsCount, toNat_failedOnce_of_within within]
  | escalated isOpen wrong reached after picked =>
      simp [isOpen, Outcome.endsCount, Progress.lockedUntil]

theorem outcome_of_wrong (isOpen : puzzle.isOpen (state.progressOf key) now = true)
    (wrong : puzzle.misses message = true)
    (ruling : puzzle.Ruling key (state.progressOf key) now picker message verdict) :
    if puzzle.attemptLimit.toNat ≤ (state.progressOf key).failedAttempts.toNat + 1 then
      ∃ text, verdict.outcome = .locked text
    else ∃ text, verdict.outcome = .fail text := by
  obtain ⟨noQuestion, unlocked⟩ := isOpen_iff.mp isOpen
  cases ruling with
  | asked question pending =>
      rw [noQuestion] at pending
      cases pending
  | barred asked locked =>
      rw [unlocked] at locked
      cases locked
  | solved _ solves =>
      rw [misses_eq_false_of_solvedBy solves] at wrong
      cases wrong
  | hinted _ unsolved hint near => simp [misses, near] at wrong
  | failed _ _ within =>
      rw [if_neg (fun reached => within ((limit_le_failedOnce_iff ..).mpr reached))]
      exact ⟨_, rfl⟩
  | escalated _ _ reached after picked =>
      rw [if_pos ((limit_le_failedOnce_iff ..).mp reached)]
      exact ⟨_, rfl⟩

end Puzzle

namespace Play

def isOpen (play : Play) (contact : ContactId) (turn : Turn) : Bool :=
  match play.story.puzzle? contact turn with
  | some puzzle => puzzle.isOpen (play.record contact turn) play.now
  | none => false

/-- Whether a move is a wrong answer to an open puzzle. -/
def isWrong (play : Play) (contact : ContactId) (turn : Turn) (move : Move) : Bool :=
  match move.message? contact turn, play.story.puzzle? contact turn with
  | some message, some puzzle => play.isOpen contact turn && puzzle.misses message
  | _, _ => false

/-- Whether a move solves a puzzle or makes it lock. -/
def restartsCount (play : Play) (contact : ContactId) (turn : Turn) : Move → Bool
  | .line addressee line =>
    ((Move.line addressee line).message? contact turn).isSome && play.isOpen contact turn &&
      (play.resolve addressee line).1.endsCount
  | .clock _ => false

/-- The number with which the count of wrong answers began. -/
def countBase (play : Play) (contact : ContactId) (turn : Turn) (moves : List Move) : Nat :=
  if (play.history moves).any fun entry => entry.1.restartsCount contact turn entry.2 then 0
  else (play.record contact turn).failedAttempts.toNat

def wrongsSince (play : Play) (contact : ContactId) (turn : Turn) (moves : List Move) : Nat :=
  ((play.history moves).reverse.takeWhile fun entry =>
    !entry.1.restartsCount contact turn entry.2).countP fun entry =>
      entry.1.isWrong contact turn entry.2

variable {play : Play} {contact : ContactId} {turn : Turn} {puzzle : Puzzle} {move : Move}
  {line : String}

theorem history_concat (play : Play) (moves : List Move) (move : Move) :
    play.history (moves ++ [move]) = play.history moves ++ [(play.run moves, move)] := by
  induction moves generalizing play with
  | nil => rfl
  | cons first moves ih =>
      rw [List.cons_append, history, ih]
      rfl

theorem attempts_make (has : play.story.puzzle? contact turn = some puzzle) (move : Move) :
    ((play.make move).record contact turn).failedAttempts.toNat =
      if play.restartsCount contact turn move then 0
      else if play.isWrong contact turn move then
        (play.record contact turn).failedAttempts.toNat + 1
      else (play.record contact turn).failedAttempts.toNat := by
  cases said : move.message? contact turn with
  | none =>
      have plain : play.isWrong contact turn move = false := by simp [isWrong, said]
      have goesOn : play.restartsCount contact turn move = false := by
        cases move <;> simp [restartsCount, said]
      simp [plain, goesOn, record_make_of_other said]
  | some message =>
      obtain ⟨line, _, rfl, _⟩ := Move.message?_invert said
      have ruling := ruling_of_message has said
      have after : (play.make (.line contact line)).record contact turn =
          (play.state.performAll (play.verdict contact line).edits).progressOf
            (.of contact turn) := congrArg (GameState.progressOf · _) (state_make_line ..)
      have opens : play.isOpen contact turn =
          puzzle.isOpen (play.record contact turn) play.now := by simp [isOpen, has]
      have restarts : play.restartsCount contact turn (.line contact line) =
          (puzzle.isOpen (play.record contact turn) play.now &&
            (play.verdict contact line).outcome.endsCount) := by
        simp [restartsCount, said, opens, resolve]
      have wrongs : play.isWrong contact turn (.line contact line) =
          (puzzle.isOpen (play.record contact turn) play.now && puzzle.misses message) := by
        simp [isWrong, said, has, opens]
      rw [after, restarts, wrongs]
      exact Puzzle.attempts_of_ruling ruling

theorem countBase_concat (play : Play) (moves : List Move) (move : Move) :
    play.countBase contact turn (moves ++ [move]) =
      if (play.run moves).restartsCount contact turn move then 0
      else play.countBase contact turn moves := by
  unfold countBase
  rw [history_concat, List.any_append, List.any_cons, List.any_nil, Bool.or_false]
  cases restarts : (play.run moves).restartsCount contact turn move with
  | true => rw [Bool.or_true, if_pos rfl, if_pos rfl]
  | false => rw [Bool.or_false, if_neg Bool.false_ne_true]

theorem wrongsSince_concat (play : Play) (moves : List Move) (move : Move) :
    play.wrongsSince contact turn (moves ++ [move]) =
      if (play.run moves).restartsCount contact turn move then 0
      else if (play.run moves).isWrong contact turn move then
        play.wrongsSince contact turn moves + 1
      else play.wrongsSince contact turn moves := by
  unfold wrongsSince
  rw [history_concat, List.reverse_append, List.reverse_singleton, List.singleton_append]
  cases restarts : (play.run moves).restartsCount contact turn move with
  | true => simp [restarts]
  | false =>
      cases wrong : (play.run moves).isWrong contact turn move <;> simp [restarts, wrong]

/-- The invariant of a run: the stored number is the exact count. -/
theorem attempts_run (has : play.story.puzzle? contact turn = some puzzle) (moves : List Move) :
    ((play.run moves).record contact turn).failedAttempts.toNat =
      play.countBase contact turn moves + play.wrongsSince contact turn moves := by
  -- The count depends on the last restart, so the run grows at its end.
  rw [← List.reverse_reverse moves]
  induction moves.reverse with
  | nil => simp [run, countBase, wrongsSince, history]
  | cons move earlier ih =>
      rw [List.reverse_cons, run_concat, countBase_concat, wrongsSince_concat]
      rw [attempts_make (puzzle?_run has earlier.reverse), ih]
      split
      · rfl
      · split <;> omega

theorem isWrong_invert (has : play.story.puzzle? contact turn = some puzzle)
    (wrong : play.isWrong contact turn move = true) :
    ∃ message, move.message? contact turn = some message ∧
      puzzle.isOpen (play.record contact turn) play.now = true ∧
      puzzle.misses message = true := by
  cases said : move.message? contact turn with
  | none => simp [isWrong, said] at wrong
  | some message =>
      simp only [isWrong, said, has, isOpen, Bool.and_eq_true] at wrong
      exact ⟨message, rfl, wrong.1, wrong.2⟩

theorem resolve_of_wrong (has : play.story.puzzle? contact turn = some puzzle)
    (wrong : play.isWrong contact turn (.line contact line) = true) :
    let answer := play.resolve contact line
    let count := (play.record contact turn).failedAttempts.toNat + 1
    if puzzle.attemptLimit.toNat ≤ count then
      (∃ text, answer.1 = .locked text) ∧ (answer.2.record contact turn).failedAttempts = 0
    else
      (∃ text, answer.1 = .fail text) ∧
        (answer.2.record contact turn).failedAttempts.toNat = count := by
  intro answer count
  obtain ⟨message, said, opens, misses⟩ := isWrong_invert has wrong
  have outcome : if puzzle.attemptLimit.toNat ≤ count then
      ∃ text, (play.verdict contact line).outcome = .locked text
    else ∃ text, (play.verdict contact line).outcome = .fail text :=
    Puzzle.outcome_of_wrong opens misses (ruling_of_message has said)
  have stored := attempts_make has (.line contact line)
  have shown : play.isOpen contact turn = true := by simp [isOpen, has, opens]
  simp only [restartsCount, said, Option.isSome_some, shown, Bool.and_self, Bool.true_and,
    wrong, if_true] at stored
  by_cases reached : puzzle.attemptLimit.toNat ≤ count
  · rw [if_pos reached] at outcome ⊢
    obtain ⟨text, locked⟩ := outcome
    have ended : (play.resolve contact line).1.endsCount = true := by
      rw [show (play.resolve contact line).1 = .locked text from locked]
      rfl
    rw [if_pos ended] at stored
    exact ⟨⟨text, locked⟩, UInt32.toNat.inj stored⟩
  · rw [if_neg reached] at outcome ⊢
    obtain ⟨text, failed⟩ := outcome
    have goesOn : (play.resolve contact line).1.endsCount ≠ true := by
      rw [show (play.resolve contact line).1 = .fail text from failed]
      exact Bool.false_ne_true
    rw [if_neg goesOn] at stored
    exact ⟨⟨text, failed⟩, stored⟩

/-- Exact attempt accounting.  After any moves the stored number of wrong answers is the one with
which the count began and one for every wrong answer since.  The next wrong answer locks the puzzle
exactly when it reaches the limit, and then the count is nothing; otherwise it fails and is counted.
Any other move leaves the count, unless it solves the puzzle, and then the count is nothing. -/
theorem attempts_exact (has : play.story.puzzle? contact turn = some puzzle)
    (moves : List Move) :
    let later := play.run moves
    let count := play.countBase contact turn moves + play.wrongsSince contact turn moves
    (later.record contact turn).failedAttempts.toNat = count ∧
    (∀ line, later.isWrong contact turn (.line contact line) = true →
      let answer := later.resolve contact line
      if puzzle.attemptLimit.toNat ≤ count + 1 then
        (∃ text, answer.1 = .locked text) ∧ (answer.2.record contact turn).failedAttempts = 0
      else
        (∃ text, answer.1 = .fail text) ∧
          (answer.2.record contact turn).failedAttempts.toNat = count + 1) ∧
    (∀ move, later.isWrong contact turn move = false →
      ((later.make move).record contact turn).failedAttempts.toNat =
        if later.restartsCount contact turn move then 0 else count) := by
  intro later count
  have counted : (later.record contact turn).failedAttempts.toNat = count := attempts_run has moves
  have hasThen := puzzle?_run has moves
  refine ⟨counted, ?_, ?_⟩
  · intro line wrong
    rw [← counted]
    exact resolve_of_wrong hasThen wrong
  · intro move right
    rw [attempts_make hasThen, right, counted]
    rfl

def patientPlay : Play where
  story := ({} : Story).withBundle ⟨"c1"⟩
    { puzzles := [{ Puzzle.simple ⟨1⟩ ["luce"] "Fatto." with maxAttempts := 2 }] }
  store := .resume (.memory {})
  picker := .first
  now := ⟨0⟩

theorem attempts_exact_at_limit :
    let later := patientPlay.run [.line ⟨"c1"⟩ "T1: ombra"]
    (later.record ⟨"c1"⟩ ⟨1⟩).failedAttempts.toNat = 1 ∧
      ((∃ text, (later.resolve ⟨"c1"⟩ "T1: notte").1 = .locked text) ∧
        ((later.resolve ⟨"c1"⟩ "T1: notte").2.record ⟨"c1"⟩ ⟨1⟩).failedAttempts = 0) := by
  have has : patientPlay.story.puzzle? ⟨"c1"⟩ ⟨1⟩ =
      some { Puzzle.simple ⟨1⟩ ["luce"] "Fatto." with maxAttempts := 2 } := by decide +kernel
  have counts : patientPlay.countBase ⟨"c1"⟩ ⟨1⟩ [.line ⟨"c1"⟩ "T1: ombra"] +
      patientPlay.wrongsSince ⟨"c1"⟩ ⟨1⟩ [.line ⟨"c1"⟩ "T1: ombra"] = 1 := by decide +kernel
  have wrong : (patientPlay.run [.line ⟨"c1"⟩ "T1: ombra"]).isWrong ⟨"c1"⟩ ⟨1⟩
      (.line ⟨"c1"⟩ "T1: notte") = true := by decide +kernel
  obtain ⟨counted, next, _⟩ := attempts_exact has [.line ⟨"c1"⟩ "T1: ombra"]
  rw [counts] at counted next
  exact ⟨counted, next "T1: notte" wrong⟩

end Play

end Casefile
