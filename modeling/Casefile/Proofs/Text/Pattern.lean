import Casefile.Text.Pattern
import Mathlib.Data.List.Forall2
import Mathlib.Data.List.TakeWhile

namespace Casefile.Text

/-!
A pattern splits a text exactly when the text is made of pieces that fit its parts, and what it
splits the text into are such pieces.
-/

namespace Part

variable {part : Part} {cs piece : List Char} {count : Nat}

/-- The part may take the piece. -/
structure Fits (part : Part) (piece : List Char) : Prop where
  allowed : part.allows piece.length = true
  accepted : ∀ c ∈ piece, part.accepts c = true

theorem mem_tries_iff :
    count ∈ part.tries cs ↔
      count ≤ (cs.takeWhile part.accepts).length ∧ part.allows count = true := by
  rw [tries, List.mem_reverse, List.mem_filter, List.mem_range, Nat.lt_succ_iff]

theorem fits_take (tried : count ∈ part.tries cs) : part.Fits (cs.take count) := by
  obtain ⟨within, allowed⟩ := mem_tries_iff.mp tried
  have front : cs.take count = (cs.takeWhile part.accepts).take count := by
    conv_lhs => rw [← List.takeWhile_append_dropWhile (p := part.accepts) (l := cs)]
    exact List.take_append_of_le_length within
  rw [front]
  refine ⟨by rwa [List.length_take_of_le within], fun c member => ?_⟩
  exact (List.mem_takeWhile_imp (List.mem_of_mem_take member))

theorem length_mem_tries (fits : part.Fits piece) (rest : List Char) :
    piece.length ∈ part.tries (piece ++ rest) := by
  refine mem_tries_iff.mpr ⟨?_, fits.allowed⟩
  rw [List.takeWhile_append_of_pos fits.accepted]
  simp

end Part

variable {parts : List Part} {cs : List Char} {pieces : List (List Char)}

theorem split_fits (found : split parts cs = some pieces) :
    pieces.flatten = cs ∧ List.Forall₂ Part.Fits parts pieces := by
  induction parts generalizing cs pieces with
  | nil =>
      cases cs with
      | nil =>
          obtain rfl : pieces = [] := by simpa [split] using found.symm
          exact ⟨rfl, .nil⟩
      | cons c cs => simp [split] at found
  | cons part parts ih =>
      rw [split] at found
      obtain ⟨count, tried, left⟩ := List.exists_of_findSome?_eq_some found
      obtain ⟨later, rest, rfl⟩ := Option.map_eq_some_iff.mp left
      obtain ⟨joined, fit⟩ := ih rest
      refine ⟨?_, .cons (Part.fits_take tried) fit⟩
      rw [List.flatten_cons, joined, List.take_append_drop]

theorem isSome_split (fit : List.Forall₂ Part.Fits parts pieces) :
    (split parts pieces.flatten).isSome = true := by
  induction fit with
  | nil => rfl
  | @cons part piece parts pieces fits _ ih =>
      rw [List.flatten_cons, split, List.findSome?_isSome_iff]
      refine ⟨piece.length, Part.length_mem_tries fits _, ?_⟩
      rwa [List.drop_left, Option.isSome_map]

end Casefile.Text
