import Casefile.Proofs.Game.Transcript
import Casefile.Proofs.Story.Lint

namespace Casefile

/-!
What goes wrong when a story is played was listed before.

An announcement without its parts, one to nobody, and a solution without keywords each break a
puzzle in its own way, in whatever state the game is.  The lint lists the puzzle each time, and a
story without issues does not break.
-/

namespace Puzzle

variable {puzzle : Puzzle}

theorem delivery_of_configError {text : String}
    (broken : puzzle.solvedOutcome = .configError text) :
    ∃ missing, puzzle.delivery = .error missing := by
  rw [solvedOutcome] at broken
  cases complete : puzzle.delivery with
  | error missing => exact ⟨missing, rfl⟩
  | ok delivery? => simp [complete] at broken

theorem delivery_of_delivered {delivery : Delivery}
    (delivered : puzzle.solvedOutcome.delivery? = some delivery) :
    puzzle.delivery = .ok (some delivery) := by
  rw [solvedOutcome] at delivered
  cases complete : puzzle.delivery with
  | error missing => simp [complete, Outcome.delivery?] at delivered
  | ok delivery? => simpa [complete, Outcome.delivery?] using delivered

theorem keywords_of_solvedBy {message : String} (wordless : Words.ofMessage message = ∅)
    (solves : puzzle.solvedBy message = true) : puzzle.solution.keywords = [] := by
  rw [solvedBy, wordless] at solves
  cases keywords : puzzle.solution.keywords with
  | nil => rfl
  | cons keyword others =>
      rw [keywords] at solves
      cases solves

end Puzzle

/-- The issues that a line brings to light: the lint has them for the contact and the turn of the
line. -/
structure Story.Foretells (story : Story) (contact : ContactId) (line : String)
    (outcome : Outcome) : Prop where
  incomplete : ∀ text, outcome = .configError text → ∃ command missing,
    Command.parse line = some command ∧
      ⟨contact, command.turn, .incompleteNotice missing⟩ ∈ story.lint
  unknown : ∀ delivery, outcome.delivery? = some delivery →
    story.hasContact delivery.contact = false → ∃ command, Command.parse line = some command ∧
      ⟨contact, command.turn, .unknownContact delivery.contact⟩ ∈ story.lint
  wordless : ∀ command, Command.parse line = some command →
    Words.ofMessage command.message = ∅ → outcome.isSolution = true →
      ⟨contact, command.turn, .emptySolution⟩ ∈ story.lint

namespace Story

variable {story : Story} {contact : ContactId} {turn : Turn} {line : String} {outcome : Outcome}

theorem Foretells.of_unsolved (unsolved : outcome.isSolution = false) :
    story.Foretells contact line outcome where
  incomplete text broken := by subst broken; cases unsolved
  unknown delivery delivered := by
    cases outcome with
    | success solved => cases unsolved
    | _ => cases delivered
  wordless command _ _ solved := by rw [unsolved] at solved; cases solved

theorem Foretells.of_solution {command : Command} {puzzle : Puzzle}
    (parsed : Command.parse line = some command)
    (has : story.puzzle? contact command.turn = some puzzle)
    (solves : puzzle.solvedBy command.message = true) :
    story.Foretells contact line puzzle.solvedOutcome where
  incomplete text broken := by
    obtain ⟨missing, incomplete⟩ := Puzzle.delivery_of_configError broken
    exact ⟨command, missing, parsed, mem_lint has (incompleteNotice_of_delivery incomplete)⟩
  unknown delivery delivered unlisted :=
    have complete := Puzzle.delivery_of_delivered delivered
    ⟨command, parsed, mem_lint has (unknownContact_of_delivery complete unlisted)⟩
  wordless other again wordless _ := by
    rw [parsed] at again
    obtain rfl := Option.some.inj again
    exact mem_lint has (emptySolution_of_no_keywords (Puzzle.keywords_of_solvedBy wordless solves))

theorem resolve_foretold (story : Story) (picker : Picker) (state : GameState) (now : Instant)
    (contact : ContactId) (line : String) :
    story.Foretells contact line (story.resolve picker state now contact line).outcome := by
  cases solved : (story.resolve picker state now contact line).outcome.isSolution with
  | false => exact .of_unsolved solved
  | true =>
      obtain ⟨command, puzzle, parsed, has, solves, outcome⟩ := resolve_solution solved
      rw [outcome]
      exact .of_solution parsed has solves

theorem Foretells.of_clean (foretells : story.Foretells contact line outcome)
    (clean : story.lint = []) :
    (∀ text, outcome ≠ .configError text) ∧
      ∀ delivery, outcome.delivery? = some delivery →
        story.hasContact delivery.contact = true := by
  refine ⟨fun text broken => ?_, fun delivery delivered => ?_⟩
  · obtain ⟨command, missing, _, listed⟩ := foretells.incomplete text broken
    simp [clean] at listed
  · by_contra unlisted
    obtain ⟨command, _, listed⟩ := foretells.unknown delivery delivered (by simpa using unlisted)
    simp [clean] at listed

/-- The puzzles of a turn are the one that is found and those that it hides. -/
theorem exists_shadowed (story : Story) (contact : ContactId) (turn : Turn) :
    ∃ shadowed, (story.puzzlesOf contact).filter (·.turn = turn) =
        (story.puzzle? contact turn).toList ++ shadowed ∧
      story.lint.count ⟨contact, turn, .duplicateTurn⟩ = shadowed.length := by
  refine ⟨((story.puzzlesOf contact).filter (·.turn = turn)).drop 1, ?_, ?_⟩
  · rw [puzzle?_eq_find?, ← List.head?_filter]
    cases (story.puzzlesOf contact).filter (·.turn = turn) <;> rfl
  · rw [← List.count_filter (p := (·.contact = contact)) (by simp), filter_lint,
      count_duplicateTurn]
    rfl

end Story

namespace Session

variable {session : Session} {now : Instant} {contact : ContactId} {line : String}
  {delivery : Delivery}

/-- A delivery stands, unread, at the end of the chat that it is meant for. -/
def Received (session : Session) (now : Instant) (delivery : Delivery) : Prop :=
  ∃ message, message.Records .contact delivery.message now false ∧
    (session.store.state.messages delivery.contact).getLast? = some message

theorem received_of_known
    (delivered : (session.submit now contact line).1.delivery? = some delivery)
    (known : session.story.hasContact delivery.contact = true) :
    (session.submit now contact line).2.Received now delivery := by
  obtain ⟨_, _, announced, _, _, records, messages⟩ := session.messages_submit now contact line
  have heard : session.story.delivers (session.submit now contact line).1 delivery.contact =
      some delivery := by
    rw [Story.delivers_of_delivery delivered, if_pos ⟨rfl, known⟩]
  refine ⟨announced delivery, records delivery, ?_⟩
  rw [messages, heard]
  exact List.getLast?_concat

theorem messages_of_unknown
    (delivered : (session.submit now contact line).1.delivery? = some delivery)
    (unknown : session.story.hasContact delivery.contact = false) :
    (session.submit now contact line).2.store.state.messages delivery.contact =
      session.store.state.messages delivery.contact := by
  obtain ⟨_, _, announced, _, _, _, messages⟩ := session.messages_submit now contact line
  have elsewhere : ¬ (delivery.contact = contact ∧ session.story.hasContact contact = true) := by
    rintro ⟨rfl, known⟩
    rw [unknown] at known
    cases known
  have unheard : session.story.delivers (session.submit now contact line).1 delivery.contact =
      none := by
    rw [Story.delivers_of_delivery delivered, if_neg (by simp [unknown])]
  rw [messages, if_neg elsewhere, unheard]
  simp

end Session

namespace Story

/-- Breakage is foretold.  Whatever the state in which a line is said, an announcement that lacks a
part, one to a contact that cannot be played, and a solution without words are issues of the contact
and the turn of that line; an announcement that is no such issue reaches its chat.  The duplicates
that are listed are as many as the puzzles that cannot be found.  So with a story without issues
nothing is misconfigured, and all that is announced arrives. -/
theorem breakage_foretold (story : Story) :
    (∀ picker state now contact line,
      story.Foretells contact line (story.resolve picker state now contact line).outcome) ∧
    (∀ session : Session, session.story = story → ∀ now contact line,
      let answer := session.submit now contact line
      story.Foretells contact line answer.1 ∧
      ∀ delivery, answer.1.delivery? = some delivery →
        if story.hasContact delivery.contact then answer.2.Received now delivery
        else answer.2.store.state.messages delivery.contact =
          session.store.state.messages delivery.contact) ∧
    (∀ contact turn, ∃ shadowed, (story.puzzlesOf contact).filter (·.turn = turn) =
        (story.puzzle? contact turn).toList ++ shadowed ∧
      story.lint.count ⟨contact, turn, .duplicateTurn⟩ = shadowed.length) ∧
    (story.lint = [] →
      (∀ picker state now contact line text,
        (story.resolve picker state now contact line).outcome ≠ .configError text) ∧
      ∀ session : Session, session.story = story → ∀ now contact line delivery,
        let answer := session.submit now contact line
        answer.1.delivery? = some delivery → answer.2.Received now delivery) := by
  have foretold : ∀ session : Session, session.story = story → ∀ now contact line,
      story.Foretells contact line (session.submit now contact line).1 := by
    rintro session rfl now contact line
    rw [show (session.submit now contact line).1 = _ from session.exchange_outcome now contact line]
    exact session.story.resolve_foretold ..
  refine ⟨story.resolve_foretold, ?_, story.exists_shadowed, fun clean => ⟨?_, ?_⟩⟩
  · rintro session rfl now contact line
    refine ⟨foretold session rfl now contact line, fun delivery delivered => ?_⟩
    cases known : session.story.hasContact delivery.contact with
    | true => exact Session.received_of_known delivered known
    | false => exact Session.messages_of_unknown delivered known
  · intro picker state now contact line
    exact ((story.resolve_foretold picker state now contact line).of_clean clean).1
  · rintro session rfl now contact line delivery answer delivered
    have known := ((foretold session rfl now contact line).of_clean clean).2 delivery delivered
    exact Session.received_of_known delivered known

/-- A story with every kind of issue. -/
def neglected : Story :=
  ({} : Story).withBundle ⟨"c1"⟩ { puzzles := [
    { turn := ⟨1⟩, notice? := some { enabled := true } },
    { Puzzle.simple ⟨2⟩ ["luce"] "Bravo." with
      notice? := some { enabled := true, contact? := some ⟨"ghost"⟩, message? := some "Ciao." } },
    Puzzle.simple ⟨1⟩ ["porta"] "Bravo."] }

/-- Each kind of breakage in the neglected story, and a delivery in a story without issues. -/
theorem breakage_foretold_neglected :
    let said := fun line => (neglected.resolve .first {} ⟨0⟩ ⟨"c1"⟩ line).outcome
    let announced : Delivery := ⟨⟨"ghost"⟩, "Ciao."⟩
    (said "T1: !" = .configError Outcome.incompleteNoticeText ∧ ∃ command missing,
      Command.parse "T1: !" = some command ∧
        ⟨⟨"c1"⟩, command.turn, .incompleteNotice missing⟩ ∈ neglected.lint) ∧
    ((said "T2: luce").delivery? = some announced ∧
      neglected.hasContact announced.contact = false ∧ ∃ command,
        Command.parse "T2: luce" = some command ∧
          ⟨⟨"c1"⟩, command.turn, .unknownContact ⟨"ghost"⟩⟩ ∈ neglected.lint) ∧
    (Words.ofMessage "!" = ∅ ∧ (said "T1: !").isSolution = true ∧
      ⟨⟨"c1"⟩, ⟨1⟩, .emptySolution⟩ ∈ neglected.lint) ∧
    (∃ shadowed, (neglected.puzzlesOf ⟨"c1"⟩).filter (·.turn = ⟨1⟩) =
        (neglected.puzzle? ⟨"c1"⟩ ⟨1⟩).toList ++ shadowed ∧
      neglected.lint.count ⟨⟨"c1"⟩, ⟨1⟩, .duplicateTurn⟩ = shadowed.length) ∧
    (let session := Session.informedSession
      let answer := session.submit ⟨0⟩ ⟨"c1"⟩ "T1: garage"
      session.story.lint = [] ∧ answer.1.delivery? = some ⟨⟨"c2"⟩, "Devo parlarti."⟩ ∧
        answer.2.Received ⟨0⟩ ⟨⟨"c2"⟩, "Devo parlarti."⟩) := by
  obtain ⟨foretold, _, shadowed, _⟩ := breakage_foretold neglected
  obtain ⟨_, _, _, clean⟩ := breakage_foretold Session.informedSession.story
  have unlinted : Session.informedSession.story.lint = [] := by decide +kernel
  have first := foretold .first {} ⟨0⟩ ⟨"c1"⟩ "T1: !"
  have second := foretold .first {} ⟨0⟩ ⟨"c1"⟩ "T2: luce"
  have broken : (neglected.resolve .first {} ⟨0⟩ ⟨"c1"⟩ "T1: !").outcome =
      .configError Outcome.incompleteNoticeText := by decide +kernel
  have delivered : (neglected.resolve .first {} ⟨0⟩ ⟨"c1"⟩ "T2: luce").outcome.delivery? =
      some ⟨⟨"ghost"⟩, "Ciao."⟩ := by decide +kernel
  have unknown : neglected.hasContact ⟨"ghost"⟩ = false := by decide +kernel
  have wordless : Words.ofMessage "!" = ∅ := by decide +kernel
  have solved : (neglected.resolve .first {} ⟨0⟩ ⟨"c1"⟩ "T1: !").outcome.isSolution = true := by
    rw [broken]
    rfl
  have parsed : Command.parse "T1: !" = some ⟨⟨1⟩, "!"⟩ := by decide +kernel
  have announced : (Session.informedSession.submit ⟨0⟩ ⟨"c1"⟩ "T1: garage").1.delivery? =
      some ⟨⟨"c2"⟩, "Devo parlarti."⟩ := by decide +kernel
  exact ⟨⟨broken, first.incomplete _ broken⟩,
    ⟨delivered, unknown, second.unknown _ delivered unknown⟩,
    ⟨wordless, solved, first.wordless _ parsed wordless solved⟩, shadowed _ _,
    unlinted, announced, (clean unlinted).2 _ rfl _ _ _ _ announced⟩

end Story

end Casefile
