import Casefile.Game.Command
import Casefile.Proofs.Text.Trimmed

namespace Casefile

/-!
A command as it is written for a turn is read as that command, if its message is one line without
blanks at its ends.
-/

namespace Command

variable {digits : List Char}

/-- Where some split into blanks and a body exists, one is found. -/
theorem hasMessage_iff {tail : List Char} :
    hasMessage tail = true ↔ ∃ blanks body, tail = blanks ++ body ∧
      (∀ c ∈ blanks, Text.isBlank c = true) ∧ body ≠ [] ∧ '\n' ∉ body := by
  constructor
  · intro found
    rw [hasMessage] at found
    cases rest : tail.dropWhile Text.isBlank with
    | nil =>
        have blank := List.dropWhile_eq_nil_iff.mp rest
        simp only [rest] at found
        -- The last blank is all that is given back to the body.
        cases last : tail.getLast? with
        | none => simp [last] at found
        | some c =>
            have unbroken : '\n' ≠ c := by
              rintro rfl
              simp [last] at found
            obtain ⟨before, rfl⟩ := List.getLast?_eq_some_iff.mp last
            exact ⟨before, [c], rfl, fun d member => blank d (List.mem_append_left _ member),
              List.cons_ne_nil _ _, by simpa using unbroken⟩
    | cons c others =>
        rw [rest] at found
        refine ⟨tail.takeWhile Text.isBlank, c :: others, ?_,
          fun d member => List.mem_takeWhile_imp member, List.cons_ne_nil _ _, by simpa using found⟩
        rw [← rest, List.takeWhile_append_dropWhile]
  · rintro ⟨blanks, body, rfl, blank, nonempty, oneLine⟩
    rw [hasMessage, List.dropWhile_append_of_pos blank]
    cases rest : body.dropWhile Text.isBlank with
    | nil =>
        have last := List.getLast?_eq_some_getLast nonempty
        have unbroken : body.getLast nonempty ≠ '\n' := fun broken =>
          oneLine (broken ▸ List.getLast_mem nonempty)
        simp [List.getLast?_append, last, unbroken]
    | cons c others =>
        have late : c :: others ⊆ body := rest ▸ (List.dropWhile_suffix Text.isBlank).subset
        simpa using fun member => oneLine (late member)

theorem ofDigits_spelled (decimal : ∀ d ∈ digits, d.isDigit = true) (numbered : digits ≠ [])
    (tail : List Char) :
    ofDigits (digits ++ ':' :: tail) = ofParts (Text.ofDecimal digits) tail := by
  have taken : (digits ++ ':' :: tail).takeWhile Char.isDigit = digits := by
    rw [List.takeWhile_append_of_pos decimal]
    simp
  have dropped : (digits ++ ':' :: tail).dropWhile Char.isDigit = ':' :: tail := by
    rw [List.dropWhile_append_of_pos decimal]
    simp
  rw [ofDigits, taken, dropped]
  cases digits with
  | nil => exact absurd rfl numbered
  | cons digit others => rfl

theorem ofDigits_written (turn : Turn) (tail : List Char) :
    ofDigits (turn.text.toList ++ ':' :: tail) = ofParts turn.number.toNat tail := by
  have numbered : turn.text.toList ≠ [] := by simp [Turn.text, Text.decimal]
  have value : Text.ofDecimal turn.text.toList = turn.number.toNat :=
    Text.ofDecimal_toList_decimal _
  rw [ofDigits_spelled turn.isDigit_text numbered, value]

/-- The line that asks for a puzzle of a turn with a message. -/
def written (turn : Turn) (message : String) : String := "T" ++ turn.text ++ ": " ++ message

theorem parse_written (turn : Turn) (message : String) :
    Command.parse (written turn message) =
      if hasMessage (' ' :: message.toList) then
        some { turn, message := String.ofList (Text.trimChars message.toList) }
      else none := by
  have spelled : (written turn message).toList =
      'T' :: (turn.text.toList ++ ':' :: ' ' :: message.toList) := by simp [written]
  have bound : turn.number.toNat < UInt32.size := turn.number.toNat_lt_size
  have blank : Text.isBlank ' ' = true := by decide +kernel
  rw [parse, spelled]
  show ofDigits (turn.text.toList ++ ':' :: ' ' :: message.toList) = _
  rw [ofDigits_written, ofParts, Text.trimChars_cons blank, UInt32.ofNat_toNat]
  simp only [bound, true_and]

theorem turn_of_written {turn : Turn} {message : String} {command : Command}
    (parsed : Command.parse (written turn message) = some command) : command.turn = turn := by
  rw [parse_written, Option.ite_none_right_eq_some] at parsed
  exact congrArg Command.turn (Option.some.inj parsed.2).symm

theorem parse_written_of_trimmed (turn : Turn) {message : String} (nonempty : message ≠ "")
    (trimmed : Text.Trimmed message.toList) (oneLine : '\n' ∉ message.toList) :
    Command.parse (written turn message) = some { turn, message } := by
  have blank : ∀ c ∈ [' '], Text.isBlank c = true :=
    List.forall_mem_singleton.mpr (by decide +kernel)
  have found : hasMessage (' ' :: message.toList) = true :=
    hasMessage_iff.mpr ⟨[' '], message.toList, rfl, blank, by simpa using nonempty, oneLine⟩
  rw [parse_written, if_pos found, trimmed.trimChars, String.ofList_toList]

theorem parse_written_empty (turn : Turn) :
    Command.parse (written turn "") = some { turn, message := "" } := by
  rw [parse_written, if_pos (by decide +kernel)]
  rfl

theorem parse_written_joined (turn : Turn) {texts : List String} (some : texts ≠ [])
    (unbroken : ∀ text ∈ texts, Text.Unbroken text) :
    Command.parse (written turn (" ".intercalate texts)) =
      .some { turn, message := " ".intercalate texts } := by
  have nonempty : ∀ text ∈ texts.map String.toList, text ≠ [] := by
    intro text member
    obtain ⟨text, listed, rfl⟩ := List.mem_map.mp member
    simpa using (unbroken text listed).1
  have unblank : ∀ text ∈ texts.map String.toList, ∀ c ∈ text, Text.isBlank c = false := by
    intro text member
    obtain ⟨text, listed, rfl⟩ := List.mem_map.mp member
    exact (unbroken text listed).2
  have spelled : (" ".intercalate texts).toList = [' '].intercalate (texts.map String.toList) :=
    String.toList_intercalate
  obtain ⟨more, trimmed, spaces⟩ := Text.trimmed_joined nonempty unblank (by simpa using some)
  rw [← spelled] at more trimmed spaces
  exact parse_written_of_trimmed turn (fun empty => more (by rw [empty]; rfl)) trimmed
    fun member => absurd (spaces '\n' member (by decide +kernel)) (by decide)

end Command

end Casefile
