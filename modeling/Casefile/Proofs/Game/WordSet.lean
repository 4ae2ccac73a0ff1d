import Casefile.Proofs.Game.Command
import Casefile.Proofs.Game.Keywords
import Casefile.Proofs.Game.Ruling

namespace Casefile

/-!
Lines that are words with spaces between them.

All that counts of such a line is which words it has.  A line that solves a puzzle therefore solves
it in any order and with any repetition, and other words in between do not spoil it.
-/

variable {said more : List String}

namespace Words

theorem ext_contains {words others : Words}
    (same : ∀ word, words.contains word = others.contains word) : words = others := by
  refine Table.ext_find? fun word => ?_
  have alike := same word
  rw [Table.contains, Table.contains] at alike
  cases here : words.find? word <;> cases there : others.find? word <;> simp_all

theorem ofMessage_joined_congr (fewer : said ⊆ more) (back : more ⊆ said) :
    ofMessage (" ".intercalate more) = ofMessage (" ".intercalate said) := by
  refine ext_contains fun word => ?_
  rw [Bool.eq_iff_iff, contains_joined_iff, contains_joined_iff]
  constructor
  · rintro ⟨text, listed, inText⟩
    exact ⟨text, back listed, inText⟩
  · rintro ⟨text, listed, inText⟩
    exact ⟨text, fewer listed, inText⟩

theorem mentionsAll_joined_mono (fewer : said ⊆ more) {keywords : List String}
    (mentioned : (ofMessage (" ".intercalate said)).mentionsAll keywords = true) :
    (ofMessage (" ".intercalate more)).mentionsAll keywords = true := by
  refine List.all_eq_true.mpr fun keyword member => ?_
  have inSaid := List.all_eq_true.mp mentioned keyword member
  obtain ⟨text, listed, inText⟩ := (mentions_joined_iff said keyword).mp inSaid
  exact (mentions_joined_iff more keyword).mpr ⟨text, fewer listed, inText⟩

end Words

namespace Command

theorem parse_said (turn : Turn) (unbroken : ∀ word ∈ said, Text.Unbroken word) :
    Command.parse (written turn (" ".intercalate said)) =
      some { turn, message := " ".intercalate said } := by
  cases said with
  | nil => exact parse_written_empty turn
  | cons word rest => exact parse_written_joined turn (List.cons_ne_nil word rest) unbroken

end Command

namespace Story

variable {story : Story} {picker : Picker} {state : GameState} {now : Instant}
  {contact : ContactId} {turn : Turn} {line other : String} {command : Command} {message : String}

theorem resolve_same_words (parsed : Command.parse line = some { turn, message })
    (parsedOther : Command.parse other = some command) (sameTurn : command.turn = turn)
    (sameWords : Words.ofMessage command.message = Words.ofMessage message) :
    story.resolve picker state now contact other = story.resolve picker state now contact line := by
  subst sameTurn
  simp only [resolve, parsed, parsedOther, Puzzle.receive, Puzzle.judge, sameWords]

theorem resolve_more (unbroken : ∀ word ∈ said ++ more, Text.Unbroken word) (fewer : said ⊆ more)
    (solved : (story.resolve picker state now contact
      (Command.written turn (" ".intercalate said))).outcome.isSolution = true) :
    story.resolve picker state now contact (Command.written turn (" ".intercalate more)) =
      story.resolve picker state now contact (Command.written turn (" ".intercalate said)) := by
  obtain ⟨unbrokenSaid, unbrokenMore⟩ := List.forall_mem_append.mp unbroken
  have parsed := Command.parse_said turn unbrokenSaid
  have parsedMore := Command.parse_said turn unbrokenMore
  obtain ⟨command, puzzle, same, has, -⟩ := resolve_solution solved
  obtain rfl := Option.some.inj (parsed.symm.trans same)
  rw [resolve_puzzle parsed has] at solved
  obtain ⟨isOpen, solves⟩ := Puzzle.solved_of_isSolution solved
  have solvesMore : puzzle.solvedBy (" ".intercalate more) = true :=
    Words.mentionsAll_joined_mono fewer solves
  rw [resolve_puzzle parsed has, resolve_puzzle parsedMore has,
    Puzzle.receive_of_solvedBy isOpen solves, Puzzle.receive_of_solvedBy isOpen solvesMore]

end Story

namespace Play

theorem resolve_eq_of_verdict {play : Play} {contact : ContactId} {line other : String}
    (same : play.verdict contact other = play.verdict contact line) :
    play.resolve contact other = play.resolve contact line := by
  rw [resolve, same, resolve]

/-- A line of words that solves a puzzle, completely announced or not, solves it with the same
outcome and to the same effect when there are more words in it, in any order and any number.  And
whatever a line of words comes to, each line of the same words comes to. -/
theorem solving_grows_with_words (play : Play) (contact : ContactId) (turn : Turn)
    (unbroken : ∀ word ∈ said ++ more, Text.Unbroken word) (fewer : said ⊆ more) :
    let first := play.resolve contact (Command.written turn (" ".intercalate said))
    let second := play.resolve contact (Command.written turn (" ".intercalate more))
    (first.1.isSolution = true → second = first) ∧ (more ⊆ said → second = first) := by
  intro first second
  refine ⟨fun solved => resolve_eq_of_verdict (Story.resolve_more unbroken fewer solved),
    fun back => resolve_eq_of_verdict ?_⟩
  obtain ⟨unbrokenSaid, unbrokenMore⟩ := List.forall_mem_append.mp unbroken
  exact Story.resolve_same_words (Command.parse_said turn unbrokenSaid)
    (Command.parse_said turn unbrokenMore) rfl (Words.ofMessage_joined_congr fewer back)

def addressPlay : Play where
  story := ({} : Story).withBundle ⟨"c1"⟩
    { puzzles := [Puzzle.simple ⟨1⟩ ["ΟΔΟΣ", "roma"] "Esatto."] }
  store := .resume (.memory {})
  picker := .first
  now := ⟨0⟩

theorem solving_grows_with_words_address :
    let said := ["Roma.", "ΟΔΟΣ"]
    let more := ["nella", "ΟΔΟΣ", "di", "Roma.", "ΟΔΟΣ"]
    let first := addressPlay.resolve ⟨"c1"⟩ (Command.written ⟨1⟩ (" ".intercalate said))
    let second := addressPlay.resolve ⟨"c1"⟩ (Command.written ⟨1⟩ (" ".intercalate more))
    (∀ word ∈ said ++ more, Text.Unbroken word) ∧ said ⊆ more ∧ first.1.isSolution = true ∧
      second = first := by
  intro said more first second
  have unbroken : ∀ word ∈ said ++ more, Text.Unbroken word := by decide +kernel
  have fewer : said ⊆ more := by decide +kernel
  have solved : first.1.isSolution = true := by decide +kernel
  exact ⟨unbroken, fewer, solved,
    (solving_grows_with_words addressPlay ⟨"c1"⟩ ⟨1⟩ unbroken fewer).1 solved⟩

end Play

end Casefile
