import ODataTable.Number.Binary

/-! Rounding to the precision of a format keeps the order of numbers.

Numbers of one binary length are rounded to multiples of the same step, and there the counts of
steps are compared. Between numbers of different lengths stands a power of two, which is a multiple
of both steps: the lesser number is not rounded above it and the greater one not below.
-/

set_option autoImplicit false

namespace ODataTable

theorem bitLength_le_iff {n bits : Nat} : bitLength n ≤ bits ↔ n < Nat.pow 2 bits := by
  unfold bitLength
  split
  next zero => exact iff_of_true (Nat.zero_le bits) (zero ▸ Nat.two_pow_pos bits)
  next positive => rw [Nat.succ_le_iff, Nat.log2_lt positive, Nat.pow_eq]

theorem lt_bitLength_iff {n bits : Nat} : bits < bitLength n ↔ Nat.pow 2 bits ≤ n := by
  rw [← Nat.not_le, bitLength_le_iff, Nat.not_lt]

theorem bitLength_mono {first second : Nat} (le : first ≤ second) :
    bitLength first ≤ bitLength second :=
  bitLength_le_iff.mpr (Nat.lt_of_le_of_lt le (bitLength_le_iff.mp (Nat.le_refl _)))

theorem roundHalfEven_mul (count : Nat) {divisor : Nat} (divisor_pos : 0 < divisor) :
    roundHalfEven (count * divisor) divisor = count := by
  simp [roundHalfEven, Nat.mul_div_cancel _ divisor_pos, divisor_pos]

theorem div_le_roundHalfEven (dividend divisor : Nat) :
    dividend / divisor ≤ roundHalfEven dividend divisor := by
  unfold roundHalfEven
  grind

theorem roundHalfEven_le (dividend divisor : Nat) :
    roundHalfEven dividend divisor ≤ dividend / divisor + 1 := by
  unfold roundHalfEven
  grind

theorem roundHalfEven_mono {first second divisor : Nat} (le : first ≤ second) :
    roundHalfEven first divisor ≤ roundHalfEven second divisor := by
  have quotients : first / divisor ≤ second / divisor := Nat.div_le_div_right le
  rcases Nat.eq_or_lt_of_le quotients with same | less
  · -- The remainders decide.
    have parts := Nat.div_add_mod first divisor
    have parts' := Nat.div_add_mod second divisor
    rw [same] at parts
    have remainders : first % divisor ≤ second % divisor := by omega
    simp only [roundHalfEven, same]
    grind
  · calc roundHalfEven first divisor
        ≤ first / divisor + 1 := roundHalfEven_le first divisor
      _ ≤ second / divisor := less
      _ ≤ roundHalfEven second divisor := div_le_roundHalfEven second divisor

def roundTo (step dividend divisor : Nat) : Nat :=
  roundHalfEven dividend (divisor * step) * step

theorem roundTo_mono {step first second divisor : Nat} (le : first ≤ second) :
    roundTo step first divisor ≤ roundTo step second divisor :=
  Nat.mul_le_mul_right step (roundHalfEven_mono le)

theorem roundTo_multiple {step units divisor : Nat} (step_pos : 0 < step) (divisor_pos : 0 < divisor)
    (multiple : step ∣ units) : roundTo step (units * divisor) divisor = units := by
  obtain ⟨count, rfl⟩ := multiple
  have whole : step * count * divisor = count * (divisor * step) := by ac_rfl
  rw [roundTo, whole, roundHalfEven_mul count (Nat.mul_pos divisor_pos step_pos), Nat.mul_comm]

namespace BinaryFormat

variable {format : BinaryFormat}

theorem roundUnits_eq_roundTo (dividend divisor : Nat) :
    format.roundUnits dividend divisor =
      roundTo (Nat.pow 2 (format.shift (dividend / divisor))) dividend divisor :=
  rfl

/-- What is a multiple of its own step needs no rounding. -/
theorem roundUnits_multiple {units divisor : Nat} (divisor_pos : 0 < divisor)
    (multiple : Nat.pow 2 (format.shift units) ∣ units) :
    format.roundUnits (units * divisor) divisor = units := by
  rw [roundUnits_eq_roundTo, Nat.mul_div_cancel _ divisor_pos]
  exact roundTo_multiple (Nat.two_pow_pos _) divisor_pos multiple

/-- A number of no more digits than the format has is kept at any scale. -/
theorem roundUnits_short (precise : 0 < format.precision) {n : Nat}
    (short : n ≤ Nat.pow 2 format.precision) (scale : Nat) {divisor : Nat}
    (divisor_pos : 0 < divisor) :
    format.roundUnits (n * Nat.pow 2 scale * divisor) divisor = n * Nat.pow 2 scale := by
  refine roundUnits_multiple divisor_pos ?_
  rcases Nat.eq_or_lt_of_le short with power | less
  · -- The power of two behind the last digit: one digit more, and all but the first are zero.
    have whole : n * Nat.pow 2 scale = 2 ^ (format.precision + scale) := by
      rw [power, Nat.pow_eq, Nat.pow_eq, Nat.pow_add]
    have digits : bitLength (n * Nat.pow 2 scale) ≤ format.precision + scale + 1 := by
      rw [bitLength_le_iff, whole, Nat.pow_eq]
      exact Nat.pow_lt_pow_succ Nat.one_lt_two
    rw [whole] at digits ⊢
    refine Nat.pow_dvd_pow 2 ?_
    simp only [shift]
    omega
  · have digits : bitLength (n * Nat.pow 2 scale) ≤ format.precision + scale := by
      rw [bitLength_le_iff, Nat.pow_eq, Nat.pow_eq, Nat.pow_add]
      exact Nat.mul_lt_mul_of_pos_right less (Nat.two_pow_pos scale)
    refine Nat.dvd_mul_left_of_dvd (Nat.pow_dvd_pow 2 ?_) n
    simp only [shift]
    omega

theorem roundUnits_mono (precise : 0 < format.precision) {first second divisor : Nat}
    (divisor_pos : 0 < divisor) (le : first ≤ second) :
    format.roundUnits first divisor ≤ format.roundUnits second divisor := by
  have quotients : first / divisor ≤ second / divisor := Nat.div_le_div_right le
  rcases Nat.eq_or_lt_of_le (bitLength_mono quotients) with same | less
  · simp only [roundUnits_eq_roundTo, shift, same]
    exact roundTo_mono le
  · -- The least number that has as many digits as the greater quotient lies in between.
    obtain ⟨bits, digits⟩ : ∃ bits, bitLength (second / divisor) = bits + 1 :=
      Nat.exists_eq_succ_of_ne_zero (Nat.ne_zero_of_lt less)
    have above : first ≤ 2 ^ bits * divisor := by
      have below := bitLength_le_iff.mp (Nat.le_of_lt_succ (digits ▸ less))
      exact Nat.le_of_lt ((Nat.div_lt_iff_lt_mul divisor_pos).mp below)
    have below : 2 ^ bits * divisor ≤ second := by
      have within := lt_bitLength_iff.mp (Nat.lt_of_lt_of_eq bits.lt_succ_self digits.symm)
      exact (Nat.le_div_iff_mul_le divisor_pos).mp within
    have kept : ∀ quotient, bitLength quotient ≤ bits + 1 →
        roundTo (Nat.pow 2 (format.shift quotient)) (2 ^ bits * divisor) divisor = 2 ^ bits := by
      intro quotient short
      refine roundTo_multiple (Nat.two_pow_pos _) divisor_pos (Nat.pow_dvd_pow 2 ?_)
      simp only [shift]
      omega
    calc format.roundUnits first divisor
        ≤ 2 ^ bits := by
          rw [← kept _ (digits ▸ Nat.le_of_lt less)]
          exact roundTo_mono above
      _ ≤ format.roundUnits second divisor := by
          rw [← kept _ (Nat.le_of_eq digits)]
          exact roundTo_mono below

end BinaryFormat

end ODataTable
