import Casefile.Proofs.Data.Table
import Casefile.Story.Lint
import Mathlib.Data.List.Count

namespace Casefile

/-!
What the lint finds, and what a broken puzzle does when it is played.

A puzzle that can be found has the same issues wherever it stands among the puzzles of its contact,
save that a later one of a turn is listed as a duplicate.  So each issue that matters to a line is
listed for the contact and the turn of that line.
-/

namespace Story

variable {story : Story} {contact : ContactId} {turn : Turn} {puzzle : Puzzle}
  {puzzles : List Puzzle} {earlier : List Turn} {problem : Problem}

def puzzlesOf (story : Story) (contact : ContactId) : List Puzzle :=
  ((story.bundle? contact).map (·.puzzles)).getD []

theorem puzzle?_eq_find? (story : Story) (contact : ContactId) (turn : Turn) :
    story.puzzle? contact turn = (story.puzzlesOf contact).find? (·.turn = turn) := by
  rw [puzzle?, puzzlesOf]
  cases story.bundle? contact with
  | none => rfl
  | some bundle => rfl

theorem contact_of_mem_puzzlesIssues :
    ∀ issue ∈ story.puzzlesIssues contact earlier puzzles, issue.contact = contact := by
  induction puzzles generalizing earlier with
  | nil => exact fun issue listed => nomatch listed
  | cons puzzle puzzles ih =>
      intro issue listed
      rcases List.mem_append.mp listed with here | later
      · obtain ⟨problem, _, rfl⟩ := List.mem_map.mp here
        rfl
      · exact ih issue later

/-- The issues of one contact are those of its puzzles. -/
theorem filter_lint (story : Story) (contact : ContactId) :
    story.lint.filter (·.contact = contact) =
      story.puzzlesIssues contact [] (story.puzzlesOf contact) := by
  rw [lint, Table.filter_flatMap_entries story.bundles contact
    fun _ => contact_of_mem_puzzlesIssues, puzzlesOf, bundle?]
  cases story.bundles.find? contact with
  | none => rfl
  | some bundle => rfl

/-! A puzzle's own problems, which do not depend on the puzzles before it. -/

theorem mem_puzzleProblems (found : problem ∈ story.puzzleProblems [] puzzle)
    (earlier : List Turn) : problem ∈ story.puzzleProblems earlier puzzle := by
  rw [puzzleProblems, List.append_assoc] at found ⊢
  exact List.mem_append_right _ found

theorem mem_puzzlesIssues (member : puzzle ∈ puzzles)
    (found : problem ∈ story.puzzleProblems [] puzzle) (earlier : List Turn) :
    ⟨contact, puzzle.turn, problem⟩ ∈ story.puzzlesIssues contact earlier puzzles := by
  induction member generalizing earlier with
  | head => exact List.mem_append_left _ (List.mem_map_of_mem (mem_puzzleProblems found earlier))
  | tail _ _ ih => exact List.mem_append_right _ (ih _)

theorem mem_lint (has : story.puzzle? contact turn = some puzzle)
    (found : problem ∈ story.puzzleProblems [] puzzle) :
    ⟨contact, turn, problem⟩ ∈ story.lint := by
  rw [puzzle?_eq_find?] at has
  have sameTurn : puzzle.turn = turn := by simpa using List.find?_some has
  have listed : ⟨contact, puzzle.turn, problem⟩ ∈
      story.puzzlesIssues contact [] (story.puzzlesOf contact) :=
    mem_puzzlesIssues (List.mem_of_find?_eq_some has) found []
  rw [← filter_lint, sameTurn] at listed
  exact (List.mem_filter.mp listed).1

theorem emptySolution_of_no_keywords (unasked : puzzle.solution.keywords = []) :
    .emptySolution ∈ story.puzzleProblems [] puzzle := by
  simp [puzzleProblems, unasked]

theorem incompleteNotice_of_delivery {missing : MissingPart}
    (incomplete : puzzle.delivery = .error missing) :
    .incompleteNotice missing ∈ story.puzzleProblems [] puzzle := by
  simp [puzzleProblems, noticeProblems, incomplete]

theorem unknownContact_of_delivery {delivery : Delivery}
    (complete : puzzle.delivery = .ok (some delivery))
    (unknown : story.hasContact delivery.contact = false) :
    .unknownContact delivery.contact ∈ story.puzzleProblems [] puzzle := by
  simp [puzzleProblems, noticeProblems, complete, unknown]

/-! Puzzles of a turn that another puzzle has already. -/

theorem count_puzzleProblems (story : Story) (earlier : List Turn) (puzzle : Puzzle) :
    (story.puzzleProblems earlier puzzle).count .duplicateTurn =
      if puzzle.turn ∈ earlier then 1 else 0 := by
  have others : .duplicateTurn ∉ story.noticeProblems puzzle := by
    unfold noticeProblems
    split
    · simp
    · split <;> simp
    · simp
  have solution : .duplicateTurn ∉
      (if puzzle.solution.keywords.isEmpty then [Problem.emptySolution] else []) := by
    split <;> simp
  rw [puzzleProblems, List.count_append, List.count_append, List.count_eq_zero.mpr others,
    List.count_eq_zero.mpr solution]
  split <;> rfl

theorem count_of_turn (problems : List Problem) (contact : ContactId) (turn : Turn) :
    (problems.map (Issue.mk contact turn)).count ⟨contact, turn, problem⟩ =
      problems.count problem :=
  List.count_map_of_injective _ _ (fun _ _ same => (Issue.mk.inj same).2.2) _

theorem count_of_other_turn {other : Turn} (different : other ≠ turn) (problems : List Problem)
    (contact : ContactId) :
    (problems.map (Issue.mk contact other)).count ⟨contact, turn, problem⟩ = 0 := by
  refine List.count_eq_zero.mpr fun listed => ?_
  obtain ⟨_, _, same⟩ := List.mem_map.mp listed
  exact different (Issue.mk.inj same).2.1

/-- All puzzles of a turn are duplicates, except the first one when the turn is new. -/
theorem count_duplicateTurn (story : Story) (contact : ContactId) (turn : Turn)
    (earlier : List Turn) (puzzles : List Puzzle) :
    (story.puzzlesIssues contact earlier puzzles).count ⟨contact, turn, .duplicateTurn⟩ =
      ((puzzles.filter (·.turn = turn)).drop (if turn ∈ earlier then 0 else 1)).length := by
  induction puzzles generalizing earlier with
  | nil => simp [puzzlesIssues]
  | cons puzzle puzzles ih =>
      rw [puzzlesIssues, List.count_append, ih]
      by_cases here : puzzle.turn = turn
      · -- The rest is counted with the turn among the earlier ones, so nothing of it is spared.
        subst here
        rw [count_of_turn, count_puzzleProblems]
        by_cases seen : puzzle.turn ∈ earlier <;> simp [seen, Nat.add_comm]
      · rw [count_of_other_turn here]
        simp [here, Ne.symm here]

end Story

end Casefile
