import Casefile.Story.Basic

namespace Casefile

/-!
Mistakes in a story that can be found before it is played.
-/

inductive Problem where
  | emptySolution
  | duplicateTurn
  | incompleteNotice (missing : MissingPart)
  | unknownContact (target : ContactId)
  deriving DecidableEq

structure Issue where
  contact : ContactId
  turn : Turn
  problem : Problem
  deriving DecidableEq

def Problem.message : Problem → String
  | .emptySolution => "solution has no keywords"
  | .duplicateTurn => "turn is declared more than once"
  | .incompleteNotice missing => "notification enabled without " ++ missing.field
  | .unknownContact target => "notification targets unknown contact " ++ target.text

def Issue.message (issue : Issue) : String :=
  issue.contact.text ++ " turn " ++ issue.turn.text ++ ": " ++ issue.problem.message

namespace Story

def noticeProblems (story : Story) (puzzle : Puzzle) : List Problem :=
  match puzzle.delivery with
  | .error missing => [.incompleteNotice missing]
  | .ok (some delivery) =>
    if story.hasContact delivery.contact then [] else [.unknownContact delivery.contact]
  | .ok none => []

/-- The mistakes of a puzzle that comes after puzzles for some turns. -/
def puzzleProblems (story : Story) (earlier : List Turn) (puzzle : Puzzle) : List Problem :=
  (if puzzle.turn ∈ earlier then [.duplicateTurn] else []) ++
  (if puzzle.solution.keywords.isEmpty then [.emptySolution] else []) ++
  story.noticeProblems puzzle

def puzzlesIssues (story : Story) (contact : ContactId) (earlier : List Turn) :
    List Puzzle → List Issue
  | [] => []
  | puzzle :: rest =>
    (story.puzzleProblems earlier puzzle).map (fun problem => ⟨contact, puzzle.turn, problem⟩) ++
    puzzlesIssues story contact (puzzle.turn :: earlier) rest

/-- All mistakes of a story, by contact and then in the order of its puzzles. -/
def lint (story : Story) : List Issue :=
  story.bundles.entries.flatMap fun entry => story.puzzlesIssues entry.1 [] entry.2.puzzles

end Story

end Casefile
