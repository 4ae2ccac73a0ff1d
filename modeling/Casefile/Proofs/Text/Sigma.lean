import Casefile.Proofs.Text.Runs
import Casefile.Proofs.Text.WordCase

namespace Casefile.Text

/-!
Lower case of a stretch of text in its place.

A text is written in lower case character by character, and only a capital sigma looks at what is
around it.  So a word is written in its place as it is alone, unless a capital sigma of the word
sees a cased letter past one end of it.
-/

variable {before near far cs late after word : List Char} {c : Char}

/-- Lower case of the text between `before`, whose last character comes first, and `after`. -/
def lowerBetween (before : List Char) : List Char → List Char → List Char
  | [], _ => []
  | c :: rest, after =>
    (if c = 'Σ' then [lowerSigma before (rest ++ after)] else lowerChar c) ++
      lowerBetween (c :: before) rest after

theorem lowerAfter_eq_between (before cs : List Char) :
    lowerAfter before cs = lowerBetween before cs [] := by
  induction cs generalizing before with
  | nil => rfl
  | cons c cs ih => rw [lowerAfter, lowerBetween, ih, List.append_nil]

theorem lowerBetween_append (before cs rest after : List Char) :
    lowerBetween before (cs ++ rest) after =
      lowerBetween before cs (rest ++ after) ++ lowerBetween (cs.reverse ++ before) rest after := by
  induction cs generalizing before with
  | nil => rfl
  | cons c cs ih => simp [lowerBetween, ih]

/-! What a sigma sees past the characters that case detection ignores. -/

def Ignored (cs : List Char) : Prop := ∀ c ∈ cs, isCaseIgnorable c = true

theorem ignored_reverse : Ignored cs.reverse ↔ Ignored cs := by simp [Ignored]

theorem meetsCased_append_of_ignored (ignored : Ignored cs) (rest : List Char) :
    meetsCased (cs ++ rest) = meetsCased rest := by
  rw [meetsCased, List.dropWhile_append_of_pos ignored, ← meetsCased]

theorem meetsCased_of_ignored (ignored : Ignored cs) : meetsCased cs = false := by
  simpa [meetsCased] using meetsCased_append_of_ignored ignored []

theorem meetsCased_append_of_seen (seen : ¬ Ignored cs) (rest : List Char) :
    meetsCased (cs ++ rest) = meetsCased cs := by
  induction cs with
  | nil => exact absurd (List.forall_mem_nil _) seen
  | cons c cs ih =>
      cases ignorable : isCaseIgnorable c with
      | true =>
          have later : ¬ Ignored cs := by simpa [Ignored, ignorable] using seen
          simpa [meetsCased, ignorable] using ih later
      | false => simp [meetsCased, ignorable]

theorem lowerSigma_eq_iff {other rest : List Char} :
    lowerSigma before after = lowerSigma other rest ↔
      (meetsCased before && !meetsCased after) = (meetsCased other && !meetsCased rest) := by
  rw [lowerSigma, lowerSigma]
  cases meetsCased before && !meetsCased after <;>
    cases meetsCased other && !meetsCased rest <;> decide

/-- More text around a sigma makes a difference to it only past characters that are ignored. -/
theorem lowerSigma_append_ne_iff :
    lowerSigma (near ++ far) (late ++ after) ≠ lowerSigma near late ↔
      (Ignored near ∧ meetsCased far = true ∧ meetsCased (late ++ after) = false) ∨
      (meetsCased near = true ∧ Ignored late ∧ meetsCased after = true) := by
  rw [ne_eq, lowerSigma_eq_iff]
  by_cases atStart : Ignored near
  · rw [meetsCased_append_of_ignored atStart, meetsCased_of_ignored atStart]
    simp [atStart]
  · rw [meetsCased_append_of_seen atStart]
    by_cases atEnd : Ignored late
    · rw [meetsCased_append_of_ignored atEnd, meetsCased_of_ignored atEnd]
      simp [atStart, atEnd]
    · rw [meetsCased_append_of_seen atEnd]
      simp [atStart, atEnd]

/-- What is around a word decides how a capital sigma of it is written. -/
inductive Sways (before word after : List Char) : Prop where
  /-- No letter comes before the sigma in the word, but one does outside, and none comes after. -/
  | fromBefore (early late : List Char) (spelled : word = early ++ 'Σ' :: late)
      (atStart : Ignored early) (cased : meetsCased before.reverse = true)
      (last : meetsCased (late ++ after) = false)
  /-- A letter comes before the sigma in the word, and none after it but outside. -/
  | fromAfter (early late : List Char) (spelled : word = early ++ 'Σ' :: late)
      (follows : meetsCased early.reverse = true) (atEnd : Ignored late)
      (cased : meetsCased after = true)

theorem sways_iff :
    Sways before word after ↔ ∃ early late, word = early ++ 'Σ' :: late ∧
      lowerSigma (early.reverse ++ before.reverse) (late ++ after) ≠
        lowerSigma early.reverse late := by
  simp only [lowerSigma_append_ne_iff, ignored_reverse]
  constructor
  · intro sways
    cases sways with
    | fromBefore early late spelled atStart cased last =>
        exact ⟨early, late, spelled, .inl ⟨atStart, cased, last⟩⟩
    | fromAfter early late spelled follows atEnd cased =>
        exact ⟨early, late, spelled, .inr ⟨follows, atEnd, cased⟩⟩
  · rintro ⟨early, late, spelled, ⟨atStart, cased, last⟩ | ⟨follows, atEnd, cased⟩⟩
    · exact .fromBefore early late spelled atStart cased last
    · exact .fromAfter early late spelled follows atEnd cased

theorem forall_sigma_cons {property : List Char → List Char → Prop} :
    (∀ early late, c :: cs = early ++ 'Σ' :: late → property early late) ↔
      (c = 'Σ' → property [] cs) ∧
      ∀ early late, cs = early ++ 'Σ' :: late → property (c :: early) late := by
  constructor
  · intro all
    refine ⟨fun sigma => all [] cs (by simp [sigma]), fun early late spelled => ?_⟩
    exact all (c :: early) late (by simp [spelled])
  · rintro ⟨first, later⟩ early late spelled
    rcases List.cons_eq_append_iff.mp spelled with ⟨rfl, same⟩ | ⟨rest, rfl, same⟩
    · obtain ⟨sigma, rfl⟩ := List.cons.inj same
      exact first sigma.symm
    · exact later rest late same

/-- A text is written alike in two places when each capital sigma of it is. -/
theorem lowerBetween_eq_iff (near far cs after : List Char) :
    lowerBetween (near ++ far) cs after = lowerBetween near cs [] ↔
      ∀ early late, cs = early ++ 'Σ' :: late →
        lowerSigma (early.reverse ++ near ++ far) (late ++ after) =
          lowerSigma (early.reverse ++ near) late := by
  induction cs generalizing near with
  | nil => simp [lowerBetween]
  | cons c cs ih =>
      have tail := ih (c :: near)
      rw [List.cons_append] at tail
      rw [forall_sigma_cons, lowerBetween, lowerBetween, List.append_nil]
      simp only [List.reverse_cons, List.append_assoc, List.cons_append, List.reverse_nil,
        List.nil_append] at tail ⊢
      rw [← tail]
      by_cases sigma : c = 'Σ' <;> simp [sigma]

/-- A word is written in its place as it is alone exactly when nothing around it sways it. -/
theorem lowerBetween_eq_lowerChars_iff (before word after : List Char) :
    lowerBetween before.reverse word after = lowerChars word ↔ ¬ Sways before word after := by
  have alike := lowerBetween_eq_iff [] before.reverse word after
  rw [List.nil_append] at alike
  rw [lowerChars, lowerAfter_eq_between, alike, sways_iff]
  simp

instance (before word after : List Char) : Decidable (Sways before word after) :=
  decidable_of_iff (lowerBetween before.reverse word after ≠ lowerChars word)
    (by rw [ne_eq, lowerBetween_eq_lowerChars_iff, Classical.not_not])

/-! In its place too, a word is written with word characters, and what is apart from it stays so. -/

theorem lowerBetween_ne_nil (nonempty : cs ≠ []) (before after : List Char) :
    lowerBetween before cs after ≠ [] := by
  cases cs with
  | nil => exact absurd rfl nonempty
  | cons c cs =>
      rw [lowerBetween]
      split
      · simp
      · simp [lowerChar_ne_nil]

theorem isWord_lowerBetween (plain : ∀ c ∈ cs, isWord c = true) (before after : List Char) :
    ∀ d ∈ lowerBetween before cs after, isWord d = true := by
  induction cs generalizing before with
  | nil => exact List.forall_mem_nil _
  | cons c cs ih =>
      obtain ⟨here, later⟩ := List.forall_mem_cons.mp plain
      rw [lowerBetween, List.forall_mem_append]
      refine ⟨?_, ih later (c :: before)⟩
      split
      · refine List.forall_mem_singleton.mpr ?_
        rw [lowerSigma]
        split <;> decide
      · exact isWord_lowerChar here

theorem lowerBetween_singleton (noWord : isWord c = false) (before after : List Char) :
    lowerBetween before [c] after = [c] := by
  have noSigma : c ≠ 'Σ' := by
    rintro rfl
    exact absurd noWord (by decide)
  rw [lowerBetween, if_neg noSigma, lowerChar_of_not_word noWord, lowerBetween, List.append_nil]

theorem endsApart_lowerBetween (ends : EndsApart (!isWord ·) cs) (before after : List Char) :
    EndsApart (!isWord ·) (lowerBetween before cs after) := by
  rcases List.eq_nil_or_concat cs with rfl | ⟨rest, c, rfl⟩
  · exact ends
  · rw [List.concat_eq_append] at ends ⊢
    have noWord : isWord c = false := by simpa [EndsApart] using ends
    rw [lowerBetween_append, lowerBetween_singleton noWord]
    simpa [EndsApart] using noWord

theorem startsApart_lowerBetween (starts : StartsApart (!isWord ·) cs)
    (before after : List Char) : StartsApart (!isWord ·) (lowerBetween before cs after) := by
  cases cs with
  | nil => exact starts
  | cons c rest =>
      have noWord : isWord c = false := by simpa [StartsApart] using starts
      rw [← List.singleton_append, lowerBetween_append, lowerBetween_singleton noWord]
      simpa [StartsApart] using noWord

end Casefile.Text
