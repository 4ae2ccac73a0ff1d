import Casefile.Text.Ranges

namespace Casefile.Text

/-!
What can be told of the characters in ranges by looking at the ends of the ranges.
-/

variable {ranges intervals others : List (Nat × Nat)} {interval : Nat × Nat} {c : Char}

/-- Whether each interval lies in one of the ranges.  Both are looked at in increasing order. -/
def encloses (ranges : List (Nat × Nat)) : List (Nat × Nat) → Bool
  | [] => true
  | interval :: rest =>
    match ranges.dropWhile fun range => Nat.blt range.2 interval.1 with
    | [] => false
    | range :: later =>
      Nat.ble range.1 interval.1 && Nat.ble interval.2 range.2 && encloses (range :: later) rest

theorem mem_of_encloses (enclosed : encloses ranges intervals = true)
    (member : interval ∈ intervals) :
    ∃ range ∈ ranges, range.1 ≤ interval.1 ∧ interval.2 ≤ range.2 := by
  induction intervals generalizing ranges with
  | nil => cases member
  | cons first rest ih =>
      rw [encloses] at enclosed
      split at enclosed
      next => cases enclosed
      next range later dropped =>
        have kept : range :: later ⊆ ranges := dropped ▸ (List.dropWhile_suffix _).subset
        simp only [Bool.and_eq_true, Nat.ble_eq] at enclosed
        obtain ⟨⟨low, high⟩, others⟩ := enclosed
        rcases List.mem_cons.mp member with rfl | later
        · exact ⟨range, kept (List.mem_cons_self ..), low, high⟩
        · obtain ⟨found, listed, reaches⟩ := ih others later
          exact ⟨found, kept listed, reaches⟩

theorem inRanges_of_encloses (enclosed : encloses ranges intervals = true)
    (member : interval ∈ intervals) (above : interval.1 ≤ c.toNat)
    (below : c.toNat ≤ interval.2) : inRanges ranges c = true := by
  obtain ⟨range, listed, low, high⟩ := mem_of_encloses enclosed member
  exact inRanges_eq_true_iff.mpr ⟨range, listed, Nat.le_trans low above, Nat.le_trans below high⟩

/-- Whether no two ranges of the lists meet. -/
def apart (ranges others : List (Nat × Nat)) : Bool :=
  ranges.all fun range => others.all fun other =>
    Nat.blt range.2 other.1 || Nat.blt other.2 range.1

theorem inRanges_of_apart (separate : apart ranges others = true)
    (inside : inRanges ranges c = true) : inRanges others c = false := by
  obtain ⟨range, listed, low, high⟩ := inRanges_eq_true_iff.mp inside
  refine Bool.eq_false_iff.mpr fun both => ?_
  obtain ⟨other, otherListed, otherLow, otherHigh⟩ := inRanges_eq_true_iff.mp both
  have disjoint := List.all_eq_true.mp (List.all_eq_true.mp separate range listed) other otherListed
  simp only [Bool.or_eq_true, Nat.blt_eq] at disjoint
  omega

end Casefile.Text
