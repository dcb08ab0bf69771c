import ODataTable.Json.Writer
import ODataTable.Proofs.Number.Literal
import ODataTable.Proofs.Number.Rounding

/-! Whole numbers of 64 bits as doubles.

A double has 53 bits, so not every whole number of 64 bits is one. The nearest double is a whole
number again, keeps the order of numbers, and is the number itself up to two to the power of 53. It
is the same whether the number comes as an integer or as its digits.
-/

set_option autoImplicit false

namespace ODataTable

namespace BinaryFormat

def nearestNat (format : BinaryFormat) (n : Nat) : Nat :=
  format.roundUnits (n * Nat.pow 2 format.fractionBits) 1 / Nat.pow 2 format.fractionBits

variable {format : BinaryFormat} (precise : 0 < format.precision)
include precise

theorem nearestNat_short {n : Nat} (short : n ≤ Nat.pow 2 format.precision) :
    format.nearestNat n = n := by
  have kept := roundUnits_short precise short format.fractionBits Nat.one_pos
  rw [Nat.mul_one] at kept
  rw [nearestNat, kept]
  exact Nat.mul_div_cancel n (Nat.two_pow_pos _)

theorem nearestNat_mono {first second : Nat} (le : first ≤ second) :
    format.nearestNat first ≤ format.nearestNat second :=
  Nat.div_le_div_right (roundUnits_mono precise Nat.one_pos (Nat.mul_le_mul_right _ le))

end BinaryFormat

namespace Binary

/-- The whole number that the nearest double to a whole number is. -/
def nearestInt (n : Int) : Int :=
  if n < 0 then -(BinaryFormat.double.nearestNat n.natAbs : Int)
  else BinaryFormat.double.nearestNat n.natAbs

theorem nearestInt_short {n : Int} (short : n.natAbs ≤ 0x20000000000000) : nearestInt n = n := by
  have kept : BinaryFormat.double.nearestNat n.natAbs = n.natAbs :=
    BinaryFormat.nearestNat_short (by decide) short
  rw [nearestInt, kept]
  split <;> omega

theorem nearestInt_mono {first second : Int} (le : first ≤ second) :
    nearestInt first ≤ nearestInt second := by
  have mono : ∀ {m n : Nat}, m ≤ n →
      BinaryFormat.double.nearestNat m ≤ BinaryFormat.double.nearestNat n :=
    BinaryFormat.nearestNat_mono (by decide)
  unfold nearestInt
  split
  · split
    next => have := mono (show second.natAbs ≤ first.natAbs by omega); omega
    next => omega
  · have := mono (show first.natAbs ≤ second.natAbs by omega)
    split <;> omega

/-- Whole numbers of 64 bits are far from infinity. -/
theorem roundUnits_le_greatest {n : Nat} (fits : n ≤ 0x10000000000000000) :
    BinaryFormat.double.roundUnits (n * Nat.pow 2 BinaryFormat.double.fractionBits) 1 ≤
      BinaryFormat.double.greatest := by
  have top : 0x10000000000000000 * Nat.pow 2 BinaryFormat.double.fractionBits =
      1 * Nat.pow 2 (64 + BinaryFormat.double.fractionBits) * 1 := by
    rw [Nat.one_mul, Nat.mul_one, Nat.pow_eq, Nat.pow_eq, Nat.pow_add]
  calc BinaryFormat.double.roundUnits (n * Nat.pow 2 BinaryFormat.double.fractionBits) 1
      ≤ BinaryFormat.double.roundUnits
          (1 * Nat.pow 2 (64 + BinaryFormat.double.fractionBits) * 1) 1 := by
        rw [← top]
        exact BinaryFormat.roundUnits_mono (by decide) Nat.one_pos (Nat.mul_le_mul_right _ fits)
    _ = 1 * Nat.pow 2 (64 + BinaryFormat.double.fractionBits) :=
        BinaryFormat.roundUnits_short (by decide) (by decide) _ Nat.one_pos
    _ ≤ BinaryFormat.double.greatest := by decide +kernel

theorem ofRatio_zero {format : BinaryFormat} (negative : Bool) :
    (ofRatio negative 0 1 : Binary format) = .finite negative 0 := by
  have kept : format.roundUnits (0 * 1) 1 = 0 :=
    BinaryFormat.roundUnits_multiple Nat.one_pos (Nat.dvd_zero _)
  rw [Nat.zero_mul] at kept
  simp [ofRatio, ofUnits, kept]

theorem ofRatio_nat (negative : Bool) {n : Nat} (fits : n ≤ 0x10000000000000000) :
    (ofRatio negative n 1 : Double) =
      .finite negative
        (BinaryFormat.double.roundUnits (n * Nat.pow 2 BinaryFormat.double.fractionBits) 1) := by
  rw [ofRatio, ofUnits, if_neg (Nat.not_lt.mpr (roundUnits_le_greatest fits))]

theorem truncate_ofInt {n : Int} (fits : n.natAbs ≤ 0x10000000000000000) (least greatest : Int) :
    (ofInt n : Double).truncate least greatest = max least (min greatest (nearestInt n)) := by
  rw [ofInt, ofRatio_nat _ fits]
  simp only [truncate, nearestInt, BinaryFormat.nearestNat, decide_eq_true_eq]

end Binary

theorem digitsValue_decimalDigits (n : Nat) : digitsValue (decimalDigits n) = n := by
  rw [digitsValue_eq, decimalDigits, Nat.ofDigitChars_ten_toDigits]

namespace DecimalLiteral

theorem toBinary_decimalDigits {format : BinaryFormat} (negative : Bool) {n : Nat}
    (fits : n ≤ 0x10000000000000000) :
    toBinary negative { whole := decimalDigits n, fraction := [], exponent := 0 } =
      (.ofRatio negative n 1 : Binary format) := by
  have value : significand { whole := decimalDigits n, fraction := [], exponent := 0 } = n := by
    rw [significand, List.append_nil, digitsValue_decimalDigits]
  have digits : (Nat.toDigits 10 n).length ≤ 20 :=
    (Nat.length_toDigits_le_iff (by decide) (by decide)).mpr (Nat.lt_of_le_of_lt fits (by decide))
  have scale : scale { whole := decimalDigits n, fraction := [], exponent := 0 } = 0 := rfl
  simp only [toBinary, value, scale]
  by_cases zero : n = 0
  · rw [if_pos zero, zero, Binary.ofRatio_zero]
  · rw [if_neg zero, if_neg (by omega), if_neg (by omega), Binary.ofDecimal, if_pos (Int.le_refl 0),
      Int.toNat_zero, Nat.pow_eq, Nat.pow_zero, Nat.mul_one]

end DecimalLiteral

/-- A whole number of 64 bits is the same double as its text. -/
theorem readBinary?_writeInteger {n : Int} (fits : n.natAbs ≤ 0x10000000000000000) :
    (readBinary? (Json.writeInteger n) : Option Double) = some (.ofInt n) := by
  have numeral := isNumeral_decimalDigits n.natAbs
  have parsed := DecimalLiteral.parse?_eq_some.mpr (.numeral numeral)
  rw [Json.writeInteger, Binary.ofInt]
  split
  next negative =>
    rw [decide_eq_true negative, ← DecimalLiteral.toBinary_decimalDigits true fits]
    simp only [readBinary?, splitSign, parsed]
  next natural =>
    rw [decide_eq_false natural, ← DecimalLiteral.toBinary_decimalDigits false fits]
    simp only [readBinary?, splitSign_of_noSign numeral.noSign, parsed]

end ODataTable
