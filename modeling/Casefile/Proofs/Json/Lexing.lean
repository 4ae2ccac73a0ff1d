import Casefile.Json.Printer

namespace Casefile.Json

/-!
Reading tokens back from their spellings.

A token is cut off exactly where its spelling ends.  Only numbers could run on into what follows
them, so they need a text after them that does not continue a number.
-/

namespace Token

/-- Whether the spelling of a token names it: fractions keep any spelling, and a literal without a
text has many. -/
def Writable : Token → Prop
  | .real _ | .text none => False
  | _ => True

def IsInt : Token → Prop
  | .int _ => True
  | _ => False

end Token

/-- A text that does not continue a number. -/
def EndsNumber (rest : List Char) : Prop :=
  ∀ c ∈ rest.head?, c.isDigit = false ∧ c ≠ '.' ∧ c ≠ 'e' ∧ c ≠ 'E'

def StartsNoDigit (rest : List Char) : Prop := ∀ c ∈ rest.head?, c.isDigit = false

theorem EndsNumber.startsNoDigit {rest : List Char} (ends : EndsNumber rest) :
    StartsNoDigit rest :=
  fun c first => (ends c first).1

theorem takeWhile_digits {digits rest : List Char} (all : ∀ c ∈ digits, c.isDigit)
    (stops : StartsNoDigit rest) : (digits ++ rest).takeWhile Char.isDigit = digits := by
  rw [List.takeWhile_append_of_pos all]
  cases rest with
  | nil => simp
  | cons c rest =>
      have stop : c.isDigit = false := stops c rfl
      simp [stop]

theorem dropWhile_digits {digits rest : List Char} (all : ∀ c ∈ digits, c.isDigit)
    (stops : StartsNoDigit rest) : (digits ++ rest).dropWhile Char.isDigit = rest := by
  rw [List.dropWhile_append_of_pos all]
  cases rest with
  | nil => simp
  | cons c rest =>
      have stop : c.isDigit = false := stops c rfl
      simp [stop]

theorem toDigits_isDigit (n : Nat) : ∀ c ∈ Nat.toDigits 10 n, c.isDigit :=
  fun _ member => Nat.isDigit_of_mem_toDigits (by decide) (by decide) member

theorem digitChar_ne_zero : ∀ digit < 10, 0 < digit → Nat.digitChar digit ≠ '0' := by decide

theorem toDigits_head {n : Nat} (positive : 0 < n) :
    ∃ digit digits, Nat.toDigits 10 n = digit :: digits ∧ digit ≠ '0' := by
  induction n using Nat.strongRecOn with
  | ind n ih =>
      by_cases small : n < 10
      · exact ⟨Nat.digitChar n, [], Nat.toDigits_of_lt_base small,
          digitChar_ne_zero n small positive⟩
      · obtain ⟨digit, digits, same, nonzero⟩ := ih (n / 10) (by omega) (by omega)
        refine ⟨digit, digits ++ [Nat.digitChar (n % 10)], ?_, nonzero⟩
        rw [Nat.toDigits_of_base_le (by decide) (by omega), same]
        rfl

theorem scanWhole_toDigits (n : Nat) {rest : List Char} (ends : EndsNumber rest) :
    scanWhole (Nat.toDigits 10 n ++ rest) = some (Nat.toDigits 10 n, rest) := by
  have all := toDigits_isDigit n
  have taken := takeWhile_digits all ends.startsNoDigit
  have dropped := dropWhile_digits all ends.startsNoDigit
  by_cases zero : n = 0
  · subst zero
    rfl
  · obtain ⟨digit, digits, same, nonzero⟩ := toDigits_head (Nat.pos_of_ne_zero zero)
    rw [same, List.cons_append] at taken dropped ⊢
    unfold scanWhole
    split
    next equal => exact absurd (List.cons.inj equal).1 nonzero
    next => simp only [taken, dropped, List.isEmpty_cons, Bool.false_eq_true, if_false]

theorem scanFraction_none {rest : List Char} (ends : EndsNumber rest) :
    scanFraction rest = some ([], rest) := by
  unfold scanFraction
  split
  next => exact absurd rfl (ends '.' rfl).2.1
  next => rfl

theorem scanExponent_none {rest : List Char} (ends : EndsNumber rest) :
    scanExponent rest = some ([], rest) := by
  cases rest with
  | nil => rfl
  | cons c rest =>
      have stop := (ends c rfl).2.2
      simp [scanExponent, stop]

theorem scanUnsigned_toDigits (negative : Bool) (n : Nat) {rest : List Char}
    (proper : negative = true → n ≠ 0) (ends : EndsNumber rest) :
    scanUnsigned negative (Nat.toDigits 10 n ++ rest) =
      some (.int (if negative then -(n : Int) else n), rest) := by
  have whole : (negative && n == 0) = false := by
    cases negative with
    | false => rfl
    | true => simpa using proper rfl
  simp only [scanUnsigned, scanWhole_toDigits n ends, scanFraction_none ends,
    scanExponent_none ends, numberToken, Nat.ofDigitChars_ten_toDigits, whole, List.isEmpty_nil,
    Bool.not_false, Bool.and_self, if_true]

theorem nextToken_digit {digit : Char} (isDigit : digit.isDigit) (rest : List Char) :
    nextToken (digit :: rest) = scanUnsigned false (digit :: rest) := by
  unfold nextToken
  split
  all_goals first
    | rfl
    | next equal => exact absurd isDigit (by rw [(List.cons.inj equal).1]; decide)

theorem nextToken_decimal (value : Int) {rest : List Char} (ends : EndsNumber rest) :
    nextToken (decimal value ++ rest) = some (.int value, rest) := by
  cases value with
  | ofNat n =>
      have scanned := scanUnsigned_toDigits false n (by simp) ends
      cases digits : Nat.toDigits 10 n with
      | nil => exact absurd digits Nat.toDigits_ne_nil
      | cons digit others =>
          have isDigit := toDigits_isDigit n digit (by simp [digits])
          rw [digits, List.cons_append] at scanned
          simp only [decimal, digits, List.cons_append, nextToken_digit isDigit, scanned]
          rfl
  | negSucc n =>
      have scanned := scanUnsigned_toDigits true (n + 1) (by simp) ends
      simp only [decimal, List.cons_append, nextToken, scanned]
      rfl

/-! A string literal is its characters, each written as itself or by an escape. -/

def pieceOf (c : Char) : Piece :=
  if c.toNat < 0x20 ∧ c ≠ '\x08' ∧ c ≠ '\x0c' ∧ c ≠ '\n' ∧ c ≠ '\r' ∧ c ≠ '\t' then
    .coded c.toNat
  else .plain c

theorem hexUnit_control : ∀ n < 0x20,
    hexUnit '0' '0' (hexDigit (n / 16)) (hexDigit (n % 16)) = some n := by decide

theorem scanPieces_short {letter c : Char} (short : shortEscape letter = some c)
    (notCode : letter ≠ 'u') (rest : List Char) :
    scanPieces ('\\' :: letter :: rest) =
      (scanPieces rest).map fun scanned => (.plain c :: scanned.1, scanned.2) := by
  rw [scanPieces]
  · rw [short]
    cases scanPieces rest <;> rfl
  · intro _ _ _ _ _ equal
    exact absurd equal notCode

theorem scanPieces_coded (n : Nat) (control : n < 0x20) (rest : List Char) :
    scanPieces ('\\' :: 'u' :: '0' :: '0' :: hexDigit (n / 16) :: hexDigit (n % 16) :: rest) =
      (scanPieces rest).map fun scanned => (.coded n :: scanned.1, scanned.2) := by
  rw [scanPieces, hexUnit_control n control]
  cases scanPieces rest <;> rfl

theorem scanPieces_plain {c : Char} (notQuote : c ≠ '"') (notBackslash : c ≠ '\\')
    (printable : ¬ c.toNat < 0x20) (rest : List Char) :
    scanPieces (c :: rest) =
      (scanPieces rest).map fun scanned => (.plain c :: scanned.1, scanned.2) := by
  rw [scanPieces]
  · rw [if_neg printable]
    cases scanPieces rest <;> rfl
  · exact notQuote
  · exact fun _ _ _ _ _ equal => absurd equal notBackslash
  · exact fun _ _ equal => absurd equal notBackslash

theorem scanPieces_escape (c : Char) (rest : List Char) :
    scanPieces (escape c ++ rest) =
      (scanPieces rest).map fun scanned => (pieceOf c :: scanned.1, scanned.2) := by
  unfold escape
  split
  next quote => subst quote; exact scanPieces_short rfl (by decide) rest
  next notQuote =>
    split
    next backslash => subst backslash; exact scanPieces_short rfl (by decide) rest
    next notBackslash =>
      split
      next short => subst short; exact scanPieces_short rfl (by decide) rest
      next notBack =>
        split
        next short => subst short; exact scanPieces_short rfl (by decide) rest
        next notFeed =>
          split
          next short => subst short; exact scanPieces_short rfl (by decide) rest
          next notLine =>
            split
            next short => subst short; exact scanPieces_short rfl (by decide) rest
            next notReturn =>
              split
              next short => subst short; exact scanPieces_short rfl (by decide) rest
              next notTab =>
                split
                next control =>
                  have piece : pieceOf c = .coded c.toNat :=
                    if_pos ⟨control, notBack, notFeed, notLine, notReturn, notTab⟩
                  rw [piece]
                  exact scanPieces_coded c.toNat control rest
                next printable =>
                  have piece : pieceOf c = .plain c := if_neg fun all => printable all.1
                  rw [piece]
                  exact scanPieces_plain notQuote notBackslash printable rest

theorem scanPieces_quoted (cs rest : List Char) :
    scanPieces (cs.flatMap escape ++ '"' :: rest) = some (cs.map pieceOf, rest) := by
  induction cs with
  | nil => rfl
  | cons c cs ih =>
      rw [List.flatMap_cons, List.append_assoc, scanPieces_escape, ih]
      rfl

/-- A code below the surrogates stands for itself, whatever comes next. -/
theorem joinPieces_coded {unit : Nat} (low : unit < 0xD800) (rest : List Piece) :
    joinPieces (.coded unit :: rest) = (joinPieces rest).map (Char.ofNat unit :: ·) := by
  have notHigh : isHighHalf unit = false := decide_eq_false (by omega)
  have notLow : isLowHalf unit = false := decide_eq_false (by omega)
  cases rest with
  | nil => simp [joinPieces, notHigh, notLow]
  | cons piece rest =>
      cases piece with
      | plain c => cases found : joinPieces rest <;> simp [joinPieces, notHigh, notLow, found]
      | coded next => simp [joinPieces, notHigh, notLow]

theorem joinPieces_pieceOf (c : Char) (rest : List Piece) :
    joinPieces (pieceOf c :: rest) = (joinPieces rest).map (c :: ·) := by
  unfold pieceOf
  split
  next control => rw [joinPieces_coded (by omega), Char.ofNat_toNat]
  next => rfl

theorem joinPieces_map (cs : List Char) : joinPieces (cs.map pieceOf) = some cs := by
  induction cs with
  | nil => rfl
  | cons c cs ih => rw [List.map_cons, joinPieces_pieceOf, ih]; rfl

theorem nextToken_quoted (text : String) (rest : List Char) :
    nextToken (quoted text.toList ++ rest) = some (.text (some text), rest) := by
  have scanned := scanPieces_quoted text.toList rest
  have characters : literal (text.toList.map pieceOf) = some text := by
    rw [literal, joinPieces_map, Option.map_some, String.ofList_toList]
  simp only [quoted, List.cons_append, List.append_assoc, List.nil_append, nextToken, scanned,
    Option.map_some, characters]

theorem nextToken_spelling {token : Token} (writable : token.Writable) {rest : List Char}
    (ends : token.IsInt → EndsNumber rest) :
    nextToken (token.spelling ++ rest) = some (token, rest) := by
  cases token with
  | openArray | closeArray | openObject | closeObject | comma | colon | null => rfl
  | bool value => cases value <;> rfl
  | int value => exact nextToken_decimal value (ends trivial)
  | real spelling => exact writable.elim
  | text literal =>
      cases literal with
      | none => exact writable.elim
      | some text => exact nextToken_quoted text rest

theorem decimal_starts (value : Int) : ∀ c ∈ (decimal value).head?, isGap c = false := by
  intro c first
  have digitOrMinus : c.isDigit ∨ c = '-' := by
    cases value with
    | ofNat n => exact .inl (toDigits_isDigit n c (List.mem_of_mem_head? first))
    | negSucc n => exact .inr (Option.some.inj first).symm
  rcases digitOrMinus with isDigit | minus
  · by_cases gap : isGap c
    · simp only [isGap, Bool.or_eq_true, decide_eq_true_eq] at gap
      rcases gap with ((rfl | rfl) | rfl) | rfl <;> exact absurd isDigit (by decide)
    · simpa using gap
  · subst minus
    rfl

theorem spelling_starts {token : Token} (writable : token.Writable) :
    ∀ c ∈ token.spelling.head?, isGap c = false := by
  cases token with
  | openArray | closeArray | openObject | closeObject | comma | colon | null =>
      rintro c ⟨⟩
      rfl
  | bool value => cases value <;> · rintro c ⟨⟩; rfl
  | int value => exact decimal_starts value
  | real spelling => exact writable.elim
  | text literal =>
      cases literal with
      | none => exact writable.elim
      | some text =>
          rintro c ⟨⟩
          rfl

theorem nextToken_nil : nextToken [] = none := by
  simp [nextToken, scanUnsigned, scanWhole]

theorem spelling_ne_nil {token : Token} (writable : token.Writable) : token.spelling ≠ [] := by
  intro empty
  have found : nextToken (token.spelling ++ []) = some (token, []) :=
    nextToken_spelling writable fun _ _ first => nomatch first
  rw [empty, List.nil_append, nextToken_nil] at found
  cases found

theorem lex_of_nextToken {cs after : List Char} {token : Token}
    (starts : ∀ c ∈ cs.head?, isGap c = false) (found : nextToken cs = some (token, after)) :
    lex cs = (lex after).map (token :: ·) := by
  cases cs with
  | nil => rw [nextToken_nil] at found; cases found
  | cons c rest =>
      have notGap : isGap c = false := starts c rfl
      rw [lex]
      simp only [notGap, Bool.false_eq_true, if_false]
      split
      next missing => rw [found] at missing; cases missing
      next again =>
        rw [found] at again
        cases again
        rfl

theorem lex_gap {gap : List Char} (blank : ∀ c ∈ gap, isGap c) (rest : List Char) :
    lex (gap ++ rest) = lex rest := by
  induction gap with
  | nil => rfl
  | cons c gap ih =>
      rw [List.cons_append, lex, if_pos (blank c (by simp))]
      exact ih fun other member => blank other (by simp [member])

/-- Blanks and one token are cut off as that token. -/
theorem lex_token {gap rest : List Char} {token : Token} (blank : ∀ c ∈ gap, isGap c)
    (writable : token.Writable) (ends : token.IsInt → EndsNumber rest) :
    lex (gap ++ token.spelling ++ rest) = (lex rest).map (token :: ·) := by
  rw [List.append_assoc, lex_gap blank]
  refine lex_of_nextToken (fun c first => ?_) (nextToken_spelling writable ends)
  cases written : token.spelling with
  | nil => exact absurd written (spelling_ne_nil writable)
  | cons start others =>
      rw [written] at first
      exact spelling_starts writable c (by rw [written]; exact first)

end Casefile.Json
