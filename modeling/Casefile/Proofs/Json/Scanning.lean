import Casefile.Json.Spelling
import Casefile.Proofs.Json.Layout
import Mathlib.Data.List.TakeWhile

namespace Casefile.Json

/-!
Tokens are cut off where they end, whatever follows them.

A scanner that takes something from the front of a text takes the same from any other text with
that front.  Only a number must not be followed by a character that it could go on with.
-/

namespace Token

def IsNumber : Token → Prop
  | .int _ | .real _ => True
  | _ => False

end Token

variable {cs after rest : List Char} {token : Token}

theorem scanPieces_split {pieces : List Piece} (scanned : scanPieces cs = some (pieces, after)) :
    ∃ taken, cs = taken ++ after ∧
      ∀ rest, scanPieces (taken ++ rest) = some (pieces, rest) := by
  fun_induction scanPieces cs generalizing pieces with
  | case1 => cases scanned
  | case2 =>
      cases scanned
      exact ⟨['"'], rfl, fun _ => rfl⟩
  | case3 a b c d _ unit inner _ found coded ih =>
      cases scanned
      obtain ⟨taken, rfl, again⟩ := ih found
      refine ⟨'\\' :: 'u' :: a :: b :: c :: d :: taken, rfl, fun rest => ?_⟩
      simp only [List.cons_append, scanPieces, coded, again]
  | case4 => cases scanned
  | case5 letter _ notCode c inner _ found short ih =>
      cases scanned
      obtain ⟨taken, rfl, again⟩ := ih found
      have isShort : letter ≠ 'u' := by
        rintro rfl
        cases short
      refine ⟨'\\' :: letter :: taken, rfl, fun rest => ?_⟩
      rw [List.cons_append, List.cons_append, scanPieces_short short isShort, again]
      rfl
  | case6 => cases scanned
  | case7 => cases scanned
  | case8 c tail notQuote notCode notShort printable inner _ found ih =>
      cases scanned
      have notBackslash : c ≠ '\\' := by
        cases tail with
        | nil => cases found
        | cons letter tail => exact fun same => notShort letter tail same rfl
      obtain ⟨taken, rfl, again⟩ := ih found
      refine ⟨c :: taken, rfl, fun rest => ?_⟩
      rw [List.cons_append, scanPieces_plain notQuote notBackslash printable, again]
      rfl
  | case9 => cases scanned

/-! The parts of a number. -/

theorem takeWhile_isDigit (cs : List Char) : ∀ c ∈ cs.takeWhile Char.isDigit, c.isDigit :=
  fun _ member => List.mem_takeWhile_imp member

theorem scanWhole_split {whole : List Char} (scanned : scanWhole cs = some (whole, after)) :
    cs = whole ++ after ∧
      ∀ rest, StartsNoDigit rest → scanWhole (whole ++ rest) = some (whole, rest) := by
  unfold scanWhole at scanned
  split at scanned
  next => cases scanned; exact ⟨rfl, fun _ _ => rfl⟩
  next notZero =>
    split at scanned
    next => cases scanned
    next nonempty =>
      cases scanned
      refine ⟨List.takeWhile_append_dropWhile.symm, fun rest stops => ?_⟩
      have taken := takeWhile_digits (takeWhile_isDigit cs) stops
      have dropped := dropWhile_digits (takeWhile_isDigit cs) stops
      have parts := List.takeWhile_append_dropWhile (p := Char.isDigit) (l := cs)
      unfold scanWhole
      split
      next tail zero =>
        -- The digits are not empty, so the text itself would start with a zero.
        cases digits : cs.takeWhile Char.isDigit with
        | nil => simp [digits] at nonempty
        | cons digit others =>
            rw [digits] at parts zero
            cases zero
            exact absurd parts.symm (notZero _)
      next => rw [taken, dropped, if_neg nonempty]

theorem scanFraction_split {fraction : List Char}
    (scanned : scanFraction cs = some (fraction, after)) :
    cs = fraction ++ after ∧ (∀ c ∈ fraction.head?, c = '.') ∧
      ∀ rest, StartsNoDigit rest → (∀ c ∈ rest.head?, c ≠ '.') →
        scanFraction (fraction ++ rest) = some (fraction, rest) := by
  unfold scanFraction at scanned
  split at scanned
  next tail =>
    split at scanned
    next => cases scanned
    next nonempty =>
      cases scanned
      refine ⟨congrArg ('.' :: ·) List.takeWhile_append_dropWhile.symm,
        fun _ first => (Option.some.inj first).symm, fun rest stops _ => ?_⟩
      have taken := takeWhile_digits (takeWhile_isDigit tail) stops
      have dropped := dropWhile_digits (takeWhile_isDigit tail) stops
      rw [List.cons_append, scanFraction, taken, dropped, if_neg nonempty]
  next =>
    cases scanned
    refine ⟨rfl, (fun c first => (Option.not_mem_none c first).elim), fun rest _ noPoint => ?_⟩
    rw [List.nil_append]
    unfold scanFraction
    split
    next => exact absurd rfl (noPoint '.' rfl)
    next => rfl

theorem scanExponentSign_split {sign digits : List Char}
    (scanned : scanExponentSign cs = (sign, digits)) :
    cs = sign ++ digits ∧ ∀ rest, (∀ c ∈ rest.head?, c.isDigit) →
      scanExponentSign (sign ++ rest) = (sign, rest) := by
  unfold scanExponentSign at scanned
  split at scanned
  next => cases scanned; exact ⟨rfl, fun _ _ => rfl⟩
  next => cases scanned; exact ⟨rfl, fun _ _ => rfl⟩
  next =>
    cases scanned
    refine ⟨rfl, fun rest starts => ?_⟩
    rw [List.nil_append]
    unfold scanExponentSign
    split
    next => exact absurd (starts '+' rfl) (by decide)
    next => exact absurd (starts '-' rfl) (by decide)
    next => rfl

theorem head?_digits (nonempty : ¬ (cs.takeWhile Char.isDigit).isEmpty) (rest : List Char) :
    ∀ c ∈ (cs.takeWhile Char.isDigit ++ rest).head?, c.isDigit := by
  intro c first
  cases digits : cs.takeWhile Char.isDigit with
  | nil => simp [digits] at nonempty
  | cons digit others =>
      rw [digits] at first
      cases first
      exact takeWhile_isDigit cs c (by rw [digits]; exact List.mem_cons_self)

theorem scanExponent_split {exponent : List Char}
    (scanned : scanExponent cs = some (exponent, after)) :
    cs = exponent ++ after ∧ (∀ c ∈ exponent.head?, c = 'e' ∨ c = 'E') ∧
      ∀ rest, EndsNumber rest → scanExponent (exponent ++ rest) = some (exponent, rest) := by
  unfold scanExponent at scanned
  split at scanned
  next c tail =>
    split at scanned
    next isMark =>
      split at scanned
      next sign digits signed =>
        split at scanned
        next => cases scanned
        next nonempty =>
          cases scanned
          obtain ⟨rfl, again⟩ := scanExponentSign_split signed
          refine ⟨by simp, fun _ first => Option.some.inj first ▸ isMark, fun rest ends => ?_⟩
          have taken := takeWhile_digits (takeWhile_isDigit digits) ends.startsNoDigit
          have dropped := dropWhile_digits (takeWhile_isDigit digits) ends.startsNoDigit
          have resigned := again _ (head?_digits nonempty rest)
          simp only [List.cons_append, List.append_assoc, scanExponent, if_pos isMark, resigned,
            taken, dropped, if_neg nonempty]
    next =>
      cases scanned
      exact ⟨rfl, (fun c first => (Option.not_mem_none c first).elim),
        fun _ ends => scanExponent_none ends⟩
  next =>
    cases scanned
    exact ⟨rfl, (fun c first => (Option.not_mem_none c first).elim),
      fun _ ends => scanExponent_none ends⟩

theorem scanUnsigned_split {negative : Bool}
    (scanned : scanUnsigned negative cs = some (token, after)) :
    ∃ taken, cs = taken ++ after ∧ ∀ rest, EndsNumber rest →
      scanUnsigned negative (taken ++ rest) = some (token, rest) := by
  unfold scanUnsigned at scanned
  split at scanned
  next => cases scanned
  next whole afterWhole found =>
    obtain ⟨rfl, wholeAgain⟩ := scanWhole_split found
    split at scanned
    next => cases scanned
    next fraction afterFraction found =>
      obtain ⟨rfl, point, fractionAgain⟩ := scanFraction_split found
      split at scanned
      next => cases scanned
      next exponent afterExponent found =>
        obtain ⟨rfl, mark, exponentAgain⟩ := scanExponent_split found
        cases scanned
        refine ⟨whole ++ (fraction ++ exponent), by simp, fun rest ends => ?_⟩
        -- Neither part can be taken for more of the part before it.
        have afterFraction : ∀ c ∈ (exponent ++ rest).head?, c.isDigit = false ∧ c ≠ '.' := by
          intro c first
          cases exponent with
          | nil => exact ⟨(ends c first).1, (ends c first).2.1⟩
          | cons start others =>
              rcases mark c first with rfl | rfl <;> decide
        have afterWhole : StartsNoDigit (fraction ++ (exponent ++ rest)) := by
          intro c first
          cases fraction with
          | nil => exact (afterFraction c first).1
          | cons start others =>
              rw [point c first]
              rfl
        have fractionRead := fractionAgain _ (fun c first => (afterFraction c first).1)
          fun c first => (afterFraction c first).2
        simp only [List.append_assoc, scanUnsigned, wholeAgain _ afterWhole, fractionRead,
          exponentAgain rest ends]

theorem numberToken_isNumber (negative : Bool) (whole fraction exponent : List Char) :
    (numberToken negative whole fraction exponent).IsNumber := by
  dsimp only [numberToken]
  split <;> trivial

theorem scanUnsigned_isNumber {negative : Bool}
    (scanned : scanUnsigned negative cs = some (token, after)) : token.IsNumber := by
  unfold scanUnsigned at scanned
  split at scanned
  next => cases scanned
  next =>
    split at scanned
    next => cases scanned
    next =>
      split at scanned
      next => cases scanned
      next =>
        cases scanned
        exact numberToken_isNumber ..

theorem scanUnsigned_none {c : Char} (notDigit : c.isDigit = false) (negative : Bool)
    (rest : List Char) : scanUnsigned negative (c :: rest) = none := by
  have noWhole : scanWhole (c :: rest) = none := by
    unfold scanWhole
    split
    next zero =>
      rw [(List.cons.inj zero).1] at notDigit
      cases notDigit
    next => simp [notDigit]
  rw [scanUnsigned, noWhole]

theorem scanUnsigned_starts {negative : Bool}
    (scanned : scanUnsigned negative cs = some (token, after)) :
    ∃ digit rest, cs = digit :: rest ∧ digit.isDigit := by
  cases cs with
  | nil => cases scanned
  | cons c rest =>
      refine ⟨c, rest, rfl, ?_⟩
      cases isDigit : c.isDigit with
      | true => rfl
      | false =>
          rw [scanUnsigned_none isDigit] at scanned
          cases scanned

/-- Whatever is cut off as a token is cut off as the same one from any text with that front. -/
theorem nextToken_split (scanned : nextToken cs = some (token, after)) :
    ∃ spelling, cs = spelling ++ after ∧
      ∀ rest, (token.IsNumber → EndsNumber rest) →
        nextToken (spelling ++ rest) = some (token, rest) := by
  unfold nextToken at scanned
  split at scanned
  next => cases scanned; exact ⟨['['], rfl, fun _ _ => rfl⟩
  next => cases scanned; exact ⟨[']'], rfl, fun _ _ => rfl⟩
  next => cases scanned; exact ⟨['{'], rfl, fun _ _ => rfl⟩
  next => cases scanned; exact ⟨['}'], rfl, fun _ _ => rfl⟩
  next => cases scanned; exact ⟨[','], rfl, fun _ _ => rfl⟩
  next => cases scanned; exact ⟨[':'], rfl, fun _ _ => rfl⟩
  next => cases scanned; exact ⟨['n', 'u', 'l', 'l'], rfl, fun _ _ => rfl⟩
  next => cases scanned; exact ⟨['t', 'r', 'u', 'e'], rfl, fun _ _ => rfl⟩
  next => cases scanned; exact ⟨['f', 'a', 'l', 's', 'e'], rfl, fun _ _ => rfl⟩
  next tail =>
    obtain ⟨⟨pieces, rest⟩, found, same⟩ := Option.map_eq_some_iff.mp scanned
    cases same
    obtain ⟨taken, rfl, again⟩ := scanPieces_split found
    refine ⟨'"' :: taken, rfl, fun rest _ => ?_⟩
    rw [List.cons_append, nextToken, again, Option.map_some]
  next tail =>
    obtain ⟨taken, rfl, again⟩ := scanUnsigned_split scanned
    refine ⟨'-' :: taken, rfl, fun rest ends => ?_⟩
    rw [List.cons_append, nextToken]
    exact again rest (ends (scanUnsigned_isNumber scanned))
  next =>
    obtain ⟨taken, rfl, again⟩ := scanUnsigned_split scanned
    have alone : scanUnsigned false (taken ++ []) = some (token, []) :=
      again [] fun c first => (Option.not_mem_none c first).elim
    rw [List.append_nil] at alone
    obtain ⟨digit, digits, rfl, isDigit⟩ := scanUnsigned_starts alone
    refine ⟨digit :: digits, rfl, fun rest ends => ?_⟩
    rw [List.cons_append, nextToken_digit isDigit]
    exact again rest (ends (scanUnsigned_isNumber alone))

theorem nextToken_gap {c : Char} (gap : isGap c) (rest : List Char) :
    nextToken (c :: rest) = none := by
  have fails (notDigit : c.isDigit = false) := scanUnsigned_none notDigit false rest
  simp only [isGap, Bool.or_eq_true, decide_eq_true_eq] at gap
  rcases gap with ((rfl | rfl) | rfl) | rfl <;> exact fails rfl

/-! A token that is spelled in a text is cut off there. -/

theorem Token.SpelledBy.nextToken_append {spelling : List Char} (spells : token.SpelledBy spelling)
    (ends : token.IsNumber → EndsNumber rest) :
    nextToken (spelling ++ rest) = some (token, rest) := by
  obtain ⟨taken, same, again⟩ := nextToken_split spells
  rw [List.append_nil] at same
  exact same ▸ again rest ends

theorem Token.SpelledBy.starts {spelling : List Char} (spells : token.SpelledBy spelling) :
    ∃ c rest, spelling = c :: rest ∧ isGap c = false := by
  cases spelling with
  | nil => rw [Token.SpelledBy, nextToken_nil] at spells; cases spells
  | cons c rest =>
      refine ⟨c, rest, rfl, ?_⟩
      cases gap : isGap c with
      | false => rfl
      | true => rw [Token.SpelledBy, nextToken_gap gap] at spells; cases spells

theorem Token.EndsValue.not_isNumber (ends : token.EndsValue) : ¬ token.IsNumber := by
  cases token with
  | comma | closeArray | closeObject => exact id
  | _ => exact ends.elim

/-- A token that ends a value does not continue a number. -/
theorem Token.SpelledBy.endsNumber {spelling : List Char} (spells : token.SpelledBy spelling)
    (ends : token.EndsValue) (rest : List Char) : EndsNumber (spelling ++ rest) := by
  have scanned : nextToken spelling = some (token, []) := spells
  unfold nextToken at scanned
  split at scanned
  iterate 9
    next =>
      cases scanned
      first
        | exact ends.elim
        | rintro _ ⟨⟩; decide
  next =>
    obtain ⟨⟨_, _⟩, _, same⟩ := Option.map_eq_some_iff.mp scanned
    cases same
    exact ends.elim
  iterate 2 next => exact absurd (scanUnsigned_isNumber scanned) ends.not_isNumber

end Casefile.Json
