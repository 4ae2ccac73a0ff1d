import Casefile.Game.Grammar
import Casefile.Proofs.Game.Command
import Casefile.Proofs.Text.Pattern

namespace Casefile.Command

/-!
A line is taken as a command exactly when it spells that command, and that is what splitting it by
the pattern gives.

Nothing in the grammar keeps line breaks out of the blanks after the colon, and the body may be
blank too.  So a command that is taken has a message on one line, but the line it was read from may
go on after a break in those blanks, and the message may be empty.
-/

variable {line : String} {command : Command} {cs digits blanks body : List Char} {mark : Char}

theorem ofDigits_eq_some (found : ofDigits cs = some command) :
    ∃ digits tail, cs = digits ++ ':' :: tail ∧ digits ≠ [] ∧
      (∀ d ∈ digits, d.isDigit = true) ∧ ofParts (Text.ofDecimal digits) tail = some command := by
  rw [ofDigits] at found
  split at found
  next digit digits tail taken dropped =>
    refine ⟨digit :: digits, tail, ?_, List.cons_ne_nil _ _, ?_, found⟩
    · rw [← taken, ← dropped, List.takeWhile_append_dropWhile]
    · rw [← taken]
      exact fun d member => List.mem_takeWhile_imp member
  next => cases found

theorem MadeOf.parse (made : MadeOf line.toList mark digits blanks body) :
    Command.parse line =
      if Text.ofDecimal digits < UInt32.size then
        some ⟨⟨UInt32.ofNat (Text.ofDecimal digits)⟩,
          Text.trim (String.ofList (blanks ++ body))⟩
      else none := by
  have found : hasMessage (blanks ++ body) = true :=
    hasMessage_iff.mpr ⟨blanks, body, rfl, made.blank, made.nonempty, made.oneLine⟩
  have read : Command.parse line = ofDigits (digits ++ ':' :: (blanks ++ body)) := by
    rw [Command.parse, made.joined]
    rcases made.marked with rfl | rfl <;> rfl
  rw [read, ofDigits_spelled made.decimal made.numbered, ofParts, Text.trim, String.toList_ofList]
  simp only [found, and_true]

theorem madeOf_of_parse (parsed : Command.parse line = some command) :
    ∃ mark digits blanks body, MadeOf line.toList mark digits blanks body := by
  have rest : ∃ mark rest, (mark = 'T' ∨ mark = 't') ∧ line.toList = mark :: rest ∧
      ofDigits rest = some command := by
    rw [Command.parse] at parsed
    split at parsed
    next rest spelled => exact ⟨'T', rest, .inl rfl, spelled, parsed⟩
    next rest spelled => exact ⟨'t', rest, .inr rfl, spelled, parsed⟩
    next => cases parsed
  obtain ⟨mark, rest, marked, spelled, found⟩ := rest
  obtain ⟨digits, tail, rfl, numbered, decimal, made⟩ := ofDigits_eq_some found
  rw [ofParts, Option.ite_none_right_eq_some] at made
  obtain ⟨blanks, body, rfl, blank, nonempty, oneLine⟩ := hasMessage_iff.mp made.1.2
  exact ⟨mark, digits, blanks, body, spelled, marked, numbered, decimal, blank, nonempty, oneLine⟩

theorem parse_iff_spells : Command.parse line = some command ↔ Spells line command := by
  constructor
  · intro parsed
    obtain ⟨mark, digits, blanks, body, made⟩ := madeOf_of_parse parsed
    rw [made.parse, Option.ite_none_right_eq_some] at parsed
    obtain ⟨inRange, same⟩ := parsed
    obtain rfl := Option.some.inj same
    exact ⟨mark, digits, blanks, body, made, (UInt32.toNat_ofNat_of_lt inRange).symm, rfl⟩
  · rintro ⟨mark, digits, blanks, body, made, number, said⟩
    have inRange : Text.ofDecimal digits < UInt32.size := number ▸ command.turn.number.toNat_lt_size
    rw [made.parse, if_pos inRange, number, UInt32.ofNat_toNat, ← said]

/-! The pattern splits a line into the parts it is made of. -/

theorem MadeOf.fits (made : MadeOf cs mark digits blanks body) :
    List.Forall₂ Text.Part.Fits pattern [[mark], digits, [':'], blanks, body] := by
  have marked : ∀ c ∈ [mark], (c == 'T' || c == 't') = true := by simpa using made.marked
  have colon : ∀ c ∈ [':'], (c == ':') = true := by simp
  have oneLine : ∀ c ∈ body, (c != '\n') = true := by
    intro c member
    simpa using fun broken : c = '\n' => made.oneLine (broken ▸ member)
  exact .cons ⟨rfl, marked⟩ (.cons ⟨decide_eq_true (List.length_pos_of_ne_nil made.numbered),
    made.decimal⟩ (.cons ⟨rfl, colon⟩ (.cons ⟨rfl, made.blank⟩
      (.cons ⟨decide_eq_true (List.length_pos_of_ne_nil made.nonempty), oneLine⟩ .nil))))

theorem madeOf_of_split {pieces : List (List Char)} (found : Text.split pattern cs = some pieces) :
    ∃ mark digits blanks body, pieces = [[mark], digits, [':'], blanks, body] ∧
      MadeOf cs mark digits blanks body := by
  obtain ⟨joined, fits⟩ := Text.split_fits found
  obtain _ | ⟨marks, _ | ⟨number, _ | ⟨colons, _ | ⟨gap, _ | ⟨text, _ | _⟩⟩⟩⟩⟩ := fits
  obtain ⟨mark, rfl⟩ := List.length_eq_one_iff.mp (eq_of_beq marks.allowed)
  obtain ⟨colon, rfl⟩ := List.length_eq_one_iff.mp (eq_of_beq colons.allowed)
  obtain rfl : colon = ':' := eq_of_beq (colons.accepted colon (List.mem_singleton_self _))
  rename_i digits blanks body
  refine ⟨mark, digits, blanks, body, rfl, ?_, ?_, ?_, number.accepted, gap.accepted, ?_, ?_⟩
  · simpa using joined.symm
  · simpa [Text.Part.once] using marks.accepted mark (List.mem_singleton_self _)
  · exact List.ne_nil_of_length_pos (of_decide_eq_true number.allowed)
  · exact List.ne_nil_of_length_pos (of_decide_eq_true text.allowed)
  · intro broken
    simpa [Text.Part.many] using text.accepted _ broken

/-- Taking a line as a command is splitting it by the pattern, whichever way the blanks go. -/
theorem parse_eq_split (line : String) :
    Command.parse line = (Text.split pattern line.toList).bind ofPieces := by
  cases found : Text.split pattern line.toList with
  | none =>
      cases parsed : Command.parse line with
      | none => rfl
      | some command =>
          obtain ⟨mark, digits, blanks, body, made⟩ := madeOf_of_parse parsed
          have split := Text.isSome_split made.fits
          have whole : [[mark], digits, [':'], blanks, body].flatten = line.toList := by
            simp [made.joined]
          rw [whole, found] at split
          cases split
  | some pieces =>
      obtain ⟨mark, digits, blanks, body, rfl, made⟩ := madeOf_of_split found
      rw [made.parse, Text.trim, String.toList_ofList, Text.trimChars_append made.blank]
      rfl

/-- A line is taken as a command exactly when it spells it, which is when the pattern splits it into
pieces that hold the command; and a command is read back from the line that is written for it. -/
theorem parsed_iff_spelled (line : String) (command : Command) :
    (Command.parse line = some command ↔ Spells line command) ∧
    Command.parse line = (Text.split pattern line.toList).bind ofPieces ∧
    (command.message ≠ "" → Text.Trimmed command.message.toList →
      '\n' ∉ command.message.toList →
      Command.parse (written command.turn command.message) = some command) :=
  ⟨parse_iff_spells, parse_eq_split line, fun nonempty trimmed oneLine =>
    parse_written_of_trimmed command.turn nonempty trimmed oneLine⟩

theorem parsed_iff_spelled_leading_zeros :
    Spells "t007:\u2028la chiave " ⟨⟨7⟩, "la chiave"⟩ ∧
    Command.parse (written ⟨7⟩ "la chiave") = some ⟨⟨7⟩, "la chiave"⟩ :=
  ⟨(parsed_iff_spelled _ _).1.mp (by decide +kernel),
    (parsed_iff_spelled "" ⟨⟨7⟩, "la chiave"⟩).2.2 (by decide)
      (by decide +kernel) (by decide)⟩

/-! What a line that is taken says. -/

theorem MadeOf.afterColon (made : MadeOf line.toList mark digits blanks body) :
    afterColon line = blanks ++ body := by
  have marked : mark ≠ ':' := by
    rcases made.marked with rfl | rfl <;> decide
  have numbered : ∀ d ∈ digits, (decide (d ≠ ':')) = true := by
    intro d member
    have digit := made.decimal d member
    exact decide_eq_true fun colon => by simp [colon] at digit
  rw [Command.afterColon, made.joined, List.dropWhile_cons_of_pos (by simpa using marked),
    List.dropWhile_append_of_pos numbered]
  simp

/-- In a line that is taken as a command, the message is on one line; a line break stands only among
the blanks after the colon, and the message is empty only when nothing but blanks comes there. -/
theorem breaks_only_in_gap (parsed : Command.parse line = some command) :
    '\n' ∉ command.message.toList ∧
    ('\n' ∈ line.toList ↔ '\n' ∈ (afterColon line).takeWhile Text.isBlank) ∧
    (command.message = "" ↔ ∀ c ∈ afterColon line, Text.isBlank c = true) := by
  obtain ⟨mark, digits, blanks, body, made, number, said⟩ := parse_iff_spells.mp parsed
  have message : command.message.toList = Text.trimChars body := by
    rw [said, Text.trim, String.toList_ofList, String.toList_ofList,
      Text.trimChars_append made.blank]
  refine ⟨?_, ?_, ?_⟩
  · rw [message]
    exact fun broken => made.oneLine (Text.mem_of_mem_trimChars broken)
  · have unmarked : '\n' ≠ mark := by
      rcases made.marked with rfl | rfl <;> decide
    have undigited : '\n' ∉ digits := fun broken => by simpa using made.decimal _ broken
    have unsaid : '\n' ∉ body.takeWhile Text.isBlank := fun broken =>
      made.oneLine ((List.takeWhile_prefix _).subset broken)
    rw [made.afterColon, List.takeWhile_append_of_pos made.blank, made.joined]
    simp [unmarked, undigited, unsaid, made.oneLine]
  · rw [made.afterColon, ← String.toList_eq_nil_iff, said, Text.trim, String.toList_ofList,
      String.toList_ofList, Text.trimChars_eq_nil_iff]

theorem breaks_only_in_gap_garage :
    Command.parse "t1:\n garage " = some ⟨⟨1⟩, "garage"⟩ ∧ '\n' ∉ "garage".toList ∧
    '\n' ∈ (afterColon "t1:\n garage ").takeWhile Text.isBlank ∧
    ¬ ∀ c ∈ afterColon "t1:\n garage ", Text.isBlank c = true := by
  have parsed : Command.parse "t1:\n garage " = some ⟨⟨1⟩, "garage"⟩ := by decide +kernel
  obtain ⟨oneLine, breaks, empty⟩ := breaks_only_in_gap parsed
  exact ⟨parsed, oneLine, breaks.mp (by decide), fun blank => absurd (empty.mpr blank) (by decide)⟩

/-- Blanks after the colon may hold a line break, and blanks alone are a message. -/
theorem taken_across_lines :
    Command.parse "T1:\ngarage" = some ⟨⟨1⟩, "garage"⟩ ∧ '\n' ∈ "T1:\ngarage".toList ∧
    Command.parse "T1: " = some ⟨⟨1⟩, ""⟩ := by decide +kernel

end Casefile.Command
