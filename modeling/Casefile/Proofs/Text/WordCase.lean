import Casefile.Proofs.Text.Ranges
import Casefile.Text.Blank
import Casefile.Text.LowerCase
import Casefile.Text.WordClass
import Mathlib.Data.List.Sort

namespace Casefile.Text

/-!
Words stay words in lower case, and what is no part of a word is its own lower case.  Blanks are no
part of a word.

All rests on the tables: the capitals lie in the ranges of word characters, so do their lower-case
forms, and the blanks do not.
-/

variable {c : Char} {span : CapitalSpan} {code : Nat}

namespace CapitalSpan

/-- The capitals of a span as intervals, each on its own where the span skips code points. -/
def intervals (span : CapitalSpan) : List (Nat × Nat) :=
  if span.step = 1 then [(span.first, span.last)]
  else (List.range' span.first ((span.last - span.first) / span.step + 1) span.step).map
    fun code => (code, code)

/-- The code point of the lower-case form of a capital. -/
def image (span : CapitalSpan) (code : Nat) : Nat := (code + span.shift).toNat

/-- Where the lower-case forms of the span lie. -/
def images (span : CapitalSpan) : Nat × Nat := (span.image span.first, span.image span.last)

theorem covers_iff :
    span.covers code = true ↔
      (span.first ≤ code ∧ code ≤ span.last) ∧ (code - span.first) % span.step = 0 := by
  simp [covers]

theorem exists_interval (covered : span.covers code = true) :
    ∃ interval ∈ span.intervals, interval.1 ≤ code ∧ code ≤ interval.2 := by
  obtain ⟨⟨above, below⟩, even⟩ := covers_iff.mp covered
  rw [intervals]
  split
  · exact ⟨_, List.mem_singleton_self _, above, below⟩
  · refine ⟨(code, code), List.mem_map_of_mem ?_, Nat.le_refl _, Nat.le_refl _⟩
    refine List.mem_range'.mpr ⟨(code - span.first) / span.step, ?_, ?_⟩
    · exact Nat.lt_succ_of_le (Nat.div_le_div_right (by omega))
    · rw [Nat.mul_div_cancel' (Nat.dvd_of_mod_eq_zero even)]
      omega

theorem image_within (above : span.first ≤ code) (below : code ≤ span.last) :
    span.images.1 ≤ span.image code ∧ span.image code ≤ span.images.2 := by
  simp only [images, image]
  omega

end CapitalSpan

theorem capitals_enclosed :
    encloses wordRanges (capitalSpans.flatMap CapitalSpan.intervals) = true := by decide +kernel

theorem images_enclosed :
    encloses wordRanges
      ((capitalSpans.map CapitalSpan.images).insertionSort fun a b => a.1 ≤ b.1) = true := by
  decide +kernel

/-- No lower-case form is a surrogate or beyond the last code point. -/
theorem images_valid :
    (capitalSpans.all fun span => Nat.blt span.images.2 0xD800 ||
      Nat.blt 0xDFFF span.images.1 && Nat.blt span.images.2 0x110000) = true := by decide +kernel

theorem isWord_of_covers (listed : span ∈ capitalSpans) (covered : span.covers c.toNat = true) :
    isWord c = true := by
  obtain ⟨interval, inside, above, below⟩ := CapitalSpan.exists_interval covered
  exact inRanges_of_encloses capitals_enclosed (List.mem_flatMap.mpr ⟨span, listed, inside⟩) above
    below

theorem isWord_image (listed : span ∈ capitalSpans) (covered : span.covers code = true) :
    isWord (Char.ofNat (span.image code)) = true := by
  obtain ⟨⟨above, below⟩, -⟩ := CapitalSpan.covers_iff.mp covered
  obtain ⟨low, high⟩ := CapitalSpan.image_within above below
  have valid : (span.image code).isValidChar := by
    have ends := List.all_eq_true.mp images_valid span listed
    simp only [Bool.or_eq_true, Bool.and_eq_true, Nat.blt_eq] at ends
    rcases ends with short | ⟨beyond, short⟩
    · exact .inl (by omega)
    · exact .inr ⟨by omega, by omega⟩
  have same : (Char.ofNat (span.image code)).toNat = span.image code := by
    rw [Char.ofNat, dif_pos valid]
    rfl
  have inside := (List.mem_insertionSort fun a b : Nat × Nat => a.1 ≤ b.1).mpr
    (List.mem_map_of_mem (f := CapitalSpan.images) listed)
  exact inRanges_of_encloses images_enclosed inside (by rwa [same]) (by rwa [same])

/-- A character is its own lower case, or the dotted capital, or a capital of some span. -/
theorem lowerChar_cases (c : Char) :
    lowerChar c = [c] ∨ (c = 'İ' ∧ lowerChar c = ['i', '\u0307']) ∨
      ∃ span ∈ capitalSpans, span.covers c.toNat = true ∧
        lowerChar c = [Char.ofNat (span.image c.toNat)] := by
  by_cases dotted : c.toNat = 0x130
  · have capital : c = 'İ' := by
      rw [← Char.ofNat_toNat c, dotted]
    exact .inr (.inl ⟨capital, by rw [lowerChar, if_pos dotted]⟩)
  · cases found : capitalSpans.find? (·.covers c.toNat) with
    | none => exact .inl (by simp [lowerChar, dotted, found])
    | some span =>
        have covered := List.find?_some found
        refine .inr (.inr ⟨span, List.mem_of_find?_eq_some found, covered, ?_⟩)
        simp [lowerChar, dotted, found, CapitalSpan.image]

theorem lowerChar_ne_nil (c : Char) : lowerChar c ≠ [] := by
  rcases lowerChar_cases c with own | ⟨-, dotted⟩ | ⟨span, -, -, image⟩
  · simp [own]
  · simp [dotted]
  · simp [image]

theorem isWord_lowerChar (word : isWord c = true) : ∀ d ∈ lowerChar c, isWord d = true := by
  rcases lowerChar_cases c with own | ⟨-, dotted⟩ | ⟨span, listed, covered, image⟩
  · rw [own]
    exact List.forall_mem_singleton.mpr word
  · rw [dotted]
    exact List.all_eq_true.mp (by decide)
  · rw [image]
    exact List.forall_mem_singleton.mpr (isWord_image listed covered)

theorem lowerChar_of_not_word (noWord : isWord c = false) : lowerChar c = [c] := by
  rcases lowerChar_cases c with own | ⟨rfl, -⟩ | ⟨span, listed, covered, -⟩
  · exact own
  · exact absurd noWord (by decide)
  · rw [isWord_of_covers listed covered] at noWord
    cases noWord

theorem not_isWord_of_blank (blank : isBlank c = true) : isWord c = false :=
  inRanges_of_apart (by decide +kernel : apart blankRanges wordRanges = true) blank

theorem lowerChar_of_blank (blank : isBlank c = true) : lowerChar c = [c] :=
  lowerChar_of_not_word (not_isWord_of_blank blank)

end Casefile.Text
