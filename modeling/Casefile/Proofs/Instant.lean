import Casefile.Instant

namespace Casefile.Instant

/-! Instants compared as integers without bounds. -/

theorem lt_iff {first second : Instant} :
    first < second ↔ first.millis.toInt < second.millis.toInt :=
  Int64.lt_iff_toInt_lt

theorem le_iff {first second : Instant} :
    first ≤ second ↔ first.millis.toInt ≤ second.millis.toInt :=
  Int64.le_iff_toInt_le

theorem le_trans {first second third : Instant} (before : first ≤ second)
    (after : second ≤ third) : first ≤ third :=
  Int64.le_trans before after

theorem not_le {first second : Instant} : ¬ first ≤ second ↔ second < first :=
  Int64.not_le

theorem lt_of_le_of_lt {first second third : Instant} (before : first ≤ second)
    (after : second < third) : first < third :=
  Int64.lt_of_le_of_lt before after

theorem toInt_ofIntClamp_of_le {value : Int} (above : Int64.minValue.toInt ≤ value) :
    (Int64.ofIntClamp value).toInt = min value Int64.maxValue.toInt := by
  by_cases fits : value ≤ Int64.maxValue.toInt
  · rw [Int64.toInt_ofIntClamp above fits]
    omega
  · unfold Int64.ofIntClamp
    rw [dif_pos above, dif_neg fits]
    omega

/-- A span into the future ends where it should, or at the end of time. -/
theorem toInt_after (start : Instant) {span : Int64} (forward : 0 ≤ span.toInt) :
    (start.after span).millis.toInt =
      min (start.millis.toInt + span.toInt) Int64.maxValue.toInt := by
  have bound := start.millis.minValue_le_toInt
  apply toInt_ofIntClamp_of_le
  omega

/-- A span that is no span into the future ends no later than it starts. -/
theorem after_le (start : Instant) {span : Int64} (backward : span.toInt ≤ 0) :
    start.after span ≤ start := by
  rw [le_iff]
  by_cases above : Int64.minValue.toInt ≤ start.millis.toInt + span.toInt
  · rw [after, toInt_ofIntClamp_of_le above]
    omega
  · rw [after, Int64.ofIntClamp, dif_neg above]
    exact start.millis.minValue_le_toInt

/-- What a count of milliseconds becomes as a span: itself, if an instant can be that late. -/
theorem toInt_toInt64 (count : UInt64) :
    count.toInt64.toInt =
      if (count.toNat : Int) ≤ Int64.maxValue.toInt then (count.toNat : Int)
      else count.toNat - UInt64.size := by
  have latest : Int64.maxValue.toInt = 9223372036854775807 := rfl
  have size : UInt64.size = 18446744073709551616 := rfl
  rw [← Int64.toInt_toBitVec, UInt64.toBitVec_toInt64, BitVec.toInt_eq_toNat_cond,
    UInt64.toNat_toBitVec, latest, size]
  split <;> split <;> omega

end Casefile.Instant
