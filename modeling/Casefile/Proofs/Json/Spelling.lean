import Casefile.Proofs.Json.Assembly
import Casefile.Proofs.Json.Scanning
import Mathlib.Data.List.Chain

namespace Casefile.Json

/-!
The reader accepts exactly the texts of values.

A text that can be cut into tokens spells them, and the tokens of a value are cut out of every text
that spells them, for no number in them runs into the next token.  Tokens that can be put together
are those of the value that they make.
-/

variable {tokens : List Token} {token : Token} {text : List Char} {reading next : Reading}
  {frames : List Frame} {value : Json}

theorem Spelled.gap {c : Char} (isBlank : isGap c) (spelled : Spelled tokens text) :
    Spelled tokens (c :: text) := by
  cases spelled with
  | done blank => exact .done (List.forall_mem_cons.mpr ⟨isBlank, blank⟩)
  | token blank spells rest =>
      exact .token (List.forall_mem_cons.mpr ⟨isBlank, blank⟩) spells rest

theorem spelled_of_lex (cut : lex text = some tokens) : Spelled tokens text := by
  fun_induction lex text generalizing tokens with
  | case1 =>
      cases cut
      exact .done (List.forall_mem_nil _)
  | case2 c rest isBlank ih => exact (ih cut).gap isBlank
  | case3 => cases cut
  | case4 c rest notBlank first after found ih =>
      obtain ⟨others, cutRest, rfl⟩ := Option.map_eq_some_iff.mp cut
      obtain ⟨spelling, same, again⟩ := nextToken_split found
      have spells : first.SpelledBy spelling := by
        have alone := again [] fun _ c start => (Option.not_mem_none c start).elim
        rwa [List.append_nil] at alone
      rw [same]
      exact @Spelled.token [] _ _ _ _ (List.forall_mem_nil _) spells (ih cutRest)

/-- Whether every number among some tokens is followed by one that ends a value. -/
def NumbersEnd (tokens : List Token) : Prop :=
  tokens.IsChain fun first second => first.IsNumber → second.EndsValue

theorem Spelled.endsNumber (spelled : Spelled tokens text)
    (ends : ∀ token ∈ tokens.head?, token.EndsValue) : EndsNumber text := by
  cases spelled with
  | done blank =>
      rw [← List.append_nil text]
      exact EndsNumber.after_gap blank fun c first => (Option.not_mem_none c first).elim
  | token blank spells rest => exact (spells.endsNumber (ends _ rfl) _).after_gap blank

theorem lex_of_spelled (spelled : Spelled tokens text) (numbersEnd : NumbersEnd tokens) :
    lex text = some tokens := by
  induction spelled with
  | @done gap blank => rw [← List.append_nil gap, lex_gap blank, lex]
  | @token gap spelling text token tokens blank spells rest ih =>
      have ends (isNumber : token.IsNumber) : EndsNumber text := by
        apply rest.endsNumber
        intro second isSecond
        cases tokens with
        | nil => cases isSecond
        | cons =>
            cases isSecond
            exact (List.isChain_cons_cons.mp numbersEnd).1 isNumber
      have others := ih numbersEnd.tail
      obtain ⟨c, more, same, notBlank⟩ := spells.starts
      have starts : ∀ start ∈ (spelling ++ text).head?, isGap start = false := by
        rw [same]
        rintro _ ⟨⟩
        exact notBlank
      rw [lex_gap blank, lex_of_nextToken starts (spells.nextToken_append ends), others]
      rfl

/-! After a number only the end of its value can come. -/

theorem startValue_number (isNumber : token.IsNumber)
    (started : startValue frames token = some next) :
    ∃ value, next = complete value frames := by
  cases token with
  | int value => exact ⟨.int value, (Option.some.inj started).symm⟩
  | real spelling => exact ⟨.real spelling, (Option.some.inj started).symm⟩
  | _ => exact isNumber.elim

theorem step_number (isNumber : token.IsNumber) (stepped : step reading token = some next) :
    ∃ value frames, next = complete value frames := by
  cases token with
  | int number | real spelling =>
      cases reading with
      | value frames => exact ⟨_, _, (startValue_number isNumber stepped).choose_spec⟩
      | firstItem frames => exact ⟨_, _, (startValue_number isNumber stepped).choose_spec⟩
      | separator frame frames => cases frame <;> cases stepped
      | firstKey | key | colon | done => cases stepped
  | _ => exact isNumber.elim

theorem step_complete {value : Json} (stepped : step (complete value frames) token = some next) :
    token.EndsValue := by
  cases frames with
  | nil => cases stepped
  | cons frame frames =>
      cases frame <;> cases token <;> trivial

theorem numbersEnd_of_run {final : Reading} (ran : run reading tokens = some final) :
    NumbersEnd tokens := by
  induction tokens generalizing reading with
  | nil => exact .nil
  | cons first rest ih =>
      cases stepped : step reading first with
      | none => simp [run, stepped] at ran
      | some next =>
          rw [run_cons stepped] at ran
          cases rest with
          | nil => exact .singleton _
          | cons second rest =>
              refine .cons_cons (fun isNumber => ?_) (ih ran)
              obtain ⟨value, frames, rfl⟩ := step_number isNumber stepped
              cases again : step (complete value frames) second with
              | none => simp [run, again] at ran
              | some => exact step_complete again

theorem numbersEnd_tokens (value : Json) : NumbersEnd value.tokens := by
  have read := reads value [] []
  rw [List.append_nil] at read
  exact numbersEnd_of_run read

theorem read_of_lex {text : String} (cut : lex text.toList = some value.tokens) :
    read text = some value := by
  rw [read, readChars, cut]
  exact assemble_tokens value

/-- A text reads as the value that it spells, and as no other. -/
theorem read_eq_some_iff {text : String} : read text = some value ↔ Spells text value := by
  constructor
  · intro readValue
    obtain ⟨tokens, cut, assembled⟩ := Option.bind_eq_some_iff.mp readValue
    rw [Spells, ← tokens_of_assemble assembled]
    exact spelled_of_lex cut
  · intro spells
    exact read_of_lex (lex_of_spelled spells (numbersEnd_tokens value))

end Casefile.Json
