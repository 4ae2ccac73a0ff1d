import Casefile.Proofs.Text.WordCase

namespace Casefile.Text

/-!
Lower case of a text in parts.

How a sigma is written depends on the letters around it.  A character that is neither cased nor
looked through hides what is beyond it, so that a text may be cut there; a blank is such a
character.
-/

variable {c : Char} {cs before rest : List Char}

/-- The character hides what is beyond it from a sigma. -/
structure HidesCase (c : Char) : Prop where
  seen : isCaseIgnorable c = false
  caseless : isCased c = false

theorem meetsCased_append (hides : HidesCase c) (cs rest : List Char) :
    meetsCased (cs ++ c :: rest) = meetsCased cs := by
  induction cs with
  | nil => simp [meetsCased, hides.seen, hides.caseless]
  | cons d cs ih =>
      cases ignorable : isCaseIgnorable d with
      | true => simpa [meetsCased, ignorable] using ih
      | false => simp [meetsCased, ignorable]

/-- What comes before a character that hides it makes no difference. -/
theorem lowerAfter_hidden (hides : HidesCase c) (before earlier cs : List Char) :
    lowerAfter (before ++ c :: earlier) cs = lowerAfter before cs := by
  induction cs generalizing before with
  | nil => rfl
  | cons d cs ih =>
      have tail := ih (d :: before)
      rw [List.cons_append] at tail
      rw [lowerAfter, lowerAfter, tail, lowerSigma, meetsCased_append hides, ← lowerSigma]

theorem lowerAfter_append (hides : HidesCase c) (before cs rest : List Char) :
    lowerAfter before (cs ++ c :: rest) =
      lowerAfter before cs ++ (lowerChar c ++ lowerAfter [] rest) := by
  induction cs generalizing before with
  | nil =>
      have noSigma : c ≠ 'Σ' := by
        rintro rfl
        exact absurd hides.caseless (by decide)
      have beyond := lowerAfter_hidden hides [] before rest
      rw [List.nil_append] at beyond
      rw [List.nil_append, lowerAfter.eq_def before (c :: rest), lowerAfter.eq_def before []]
      simp only [if_neg noSigma, beyond, List.nil_append]
  | cons d cs ih =>
      rw [List.cons_append, lowerAfter, lowerAfter, ih, lowerSigma, meetsCased_append hides,
        ← lowerSigma, List.append_assoc]

theorem lowerChars_append (hides : HidesCase c) (cs rest : List Char) :
    lowerChars (cs ++ c :: rest) = lowerChars cs ++ (lowerChar c ++ lowerChars rest) :=
  lowerAfter_append hides [] cs rest

theorem hidesCase_space : HidesCase ' ' := ⟨by decide +kernel, by decide⟩

/-- Texts with spaces between them are written in lower case on their own. -/
theorem lowerChars_joined (texts : List (List Char)) :
    lowerChars ([' '].intercalate texts) = [' '].intercalate (texts.map lowerChars) := by
  have space : lowerChar ' ' = [' '] := lowerChar_of_blank (by decide)
  match texts with
  | [] => rfl
  | [text] => simp
  | first :: second :: rest =>
      rw [List.intercalate_cons_cons, List.append_assoc, List.singleton_append,
        lowerChars_append hidesCase_space, lowerChars_joined (second :: rest), space]
      simp

theorem blank_mem_lowerAfter (blank : isBlank c = true) (member : c ∈ cs) (before : List Char) :
    c ∈ lowerAfter before cs := by
  induction cs generalizing before with
  | nil => cases member
  | cons d cs ih =>
      rw [lowerAfter]
      rcases List.mem_cons.mp member with rfl | later
      · have noSigma : c ≠ 'Σ' := by
          rintro rfl
          exact absurd (not_isWord_of_blank blank) (by decide)
        rw [if_neg noSigma, lowerChar_of_blank blank]
        exact List.mem_append_left _ (List.mem_singleton_self c)
      · exact List.mem_append_right _ (ih later _)

/-- A text whose lower case is all word characters has no blank. -/
theorem unblank_of_word (word : ∀ d ∈ lowerChars cs, isWord d = true) :
    ∀ d ∈ cs, isBlank d = false := by
  intro d member
  cases blank : isBlank d with
  | false => rfl
  | true =>
      have inWord := word d (blank_mem_lowerAfter blank member [])
      rw [not_isWord_of_blank blank] at inWord
      exact inWord.symm

end Casefile.Text
