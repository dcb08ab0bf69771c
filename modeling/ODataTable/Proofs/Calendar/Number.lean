import Mathlib.Data.List.TakeWhile
import ODataTable.Calendar.Literal

/-! Numbers of a fixed number of digits, and fractions of a second.

A number that is padded with zeros is read back in front of anything, because its digits are
counted. A fraction ends where the digits end.
-/

set_option autoImplicit false

namespace ODataTable

def IsDigits (text : List Char) : Prop :=
  ∀ c ∈ text, c.isDigit = true

/-- What may follow digits: it does not go on with a digit. -/
def EndsDigits (text : List Char) : Prop :=
  ∀ c ∈ text.head?, c.isDigit = false

theorem isDigits_takeWhile (text : List Char) : IsDigits (text.takeWhile Char.isDigit) :=
  fun _ => List.mem_takeWhile_imp

theorem EndsDigits.stop {text : List Char} (ends : EndsDigits text) :
    text.takeWhile Char.isDigit = [] ∧ text.dropWhile Char.isDigit = text := by
  cases text with
  | nil => exact ⟨rfl, rfl⟩
  | cons c rest =>
    have other : ¬ c.isDigit = true := by simp [ends c rfl]
    exact ⟨List.takeWhile_cons_of_neg other, List.dropWhile_cons_of_neg other⟩

theorem takeWhile_digits {digits rest : List Char} (numeral : IsDigits digits)
    (ends : EndsDigits rest) : (digits ++ rest).takeWhile Char.isDigit = digits := by
  rw [List.takeWhile_append_of_pos numeral, ends.stop.1, List.append_nil]

theorem dropWhile_digits {digits rest : List Char} (numeral : IsDigits digits)
    (ends : EndsDigits rest) : (digits ++ rest).dropWhile Char.isDigit = rest := by
  rw [List.dropWhile_append_of_pos numeral, ends.stop.2]

theorem digitsValue_eq (digits : List Char) :
    digitsValue digits = Nat.ofDigitChars 10 digits 0 := by
  have step : (fun value c => value * 10 + digitValue c) =
      fun (value : Nat) (c : Char) => 10 * value + (c.toNat - '0'.toNat) := by
    funext value c
    rw [Nat.mul_comm, digitValue]
  rw [digitsValue, appendDigits, step, Nat.ofDigitChars_eq_foldl]

theorem toNat_of_isDigit {c : Char} (digit : c.isDigit = true) : 48 ≤ c.toNat ∧ c.toNat ≤ 57 :=
  Char.isDigit_iff_toNat.mp digit

theorem digitValue_lt {c : Char} (digit : c.isDigit = true) : digitValue c < 10 := by
  have zero : '0'.toNat = 48 := rfl
  have bounds := toNat_of_isDigit digit
  unfold digitValue
  omega

theorem appendDigits_lt {digits : List Char} (numeral : ∀ c ∈ digits, c.isDigit = true)
    (start : Nat) : appendDigits start digits < (start + 1) * Nat.pow 10 digits.length := by
  induction digits generalizing start with
  | nil => exact Nat.lt_of_lt_of_eq (Nat.lt_succ_self start) (Nat.mul_one _).symm
  | cons c rest ih =>
    have here := digitValue_lt (numeral c List.mem_cons_self)
    have after := ih (fun d member => numeral d (List.mem_cons_of_mem _ member))
      (start * 10 + digitValue c)
    calc appendDigits start (c :: rest)
        = appendDigits (start * 10 + digitValue c) rest := rfl
      _ < (start * 10 + digitValue c + 1) * Nat.pow 10 rest.length := after
      _ ≤ ((start + 1) * 10) * Nat.pow 10 rest.length := Nat.mul_le_mul_right _ (by omega)
      _ = (start + 1) * Nat.pow 10 (c :: rest).length := by
        rw [List.length_cons, Nat.pow_eq, Nat.pow_eq, Nat.pow_succ, Nat.mul_assoc,
          Nat.mul_comm 10]

theorem digitsValue_lt {digits : List Char} (numeral : ∀ c ∈ digits, c.isDigit = true) :
    digitsValue digits < Nat.pow 10 digits.length :=
  Nat.lt_of_lt_of_eq (appendDigits_lt numeral 0) (by rw [Nat.zero_add, Nat.one_mul])

namespace Instant

theorem digitsValue_writePadded (width n : Nat) : digitsValue (writePadded width n) = n := by
  rw [digitsValue_eq, writePadded, Nat.ofDigitChars_append, Nat.ofDigitChars_replicate_zero,
    Nat.mul_zero, decimalDigits, Nat.ofDigitChars_ten_toDigits]

theorem isDigit_of_mem_writePadded {width n : Nat} {c : Char} (member : c ∈ writePadded width n) :
    c.isDigit = true := by
  rcases List.mem_append.mp member with padding | digit
  · rw [List.eq_of_mem_replicate padding]
    rfl
  · exact Nat.isDigit_of_mem_toDigits (by decide) (by decide) digit

theorem length_writePadded {width n : Nat} (width_pos : 0 < width) (fits : n < Nat.pow 10 width) :
    (writePadded width n).length = width := by
  have short : (decimalDigits n).length ≤ width :=
    (Nat.length_toDigits_le_iff (by decide) width_pos).mpr fits
  rw [writePadded, List.length_append, List.length_replicate]
  exact Nat.sub_add_cancel short

end Instant

namespace TimeLiteral

theorem readDigits_append {digits : List Char} (numeral : ∀ c ∈ digits, c.isDigit = true)
    (rest : List Char) :
    readDigits digits.length digits.length (digits ++ rest) = some (digitsValue digits, rest) := by
  simp only [readDigits, List.take_left, List.takeWhile_eq_self_iff.mpr numeral, Nat.lt_irrefl,
    if_false, List.drop_left]

theorem readDigits_writePadded {width n : Nat} (width_pos : 0 < width)
    (fits : n < Nat.pow 10 width) (rest : List Char) :
    readDigits width width (Instant.writePadded width n ++ rest) = some (n, rest) := by
  have numeral : ∀ c ∈ Instant.writePadded width n, c.isDigit = true :=
    fun _ => Instant.isDigit_of_mem_writePadded
  have read := readDigits_append numeral rest
  rwa [Instant.length_writePadded width_pos fits, Instant.digitsValue_writePadded] at read

theorem readDigits_two {n : Nat} (fits : n < 100) (rest : List Char) :
    readDigits 2 2 (Instant.writePadded 2 n ++ rest) = some (n, rest) :=
  readDigits_writePadded Nat.zero_lt_two fits rest

theorem readDigits_four {n : Nat} (fits : n < 10000) (rest : List Char) :
    readDigits 4 4 (Instant.writePadded 4 n ++ rest) = some (n, rest) :=
  readDigits_writePadded (by decide) fits rest

/-- What may follow a fraction: it is no further digit, and no point if there is no fraction. -/
def EndsFraction (text : List Char) : Prop :=
  ∀ c ∈ text.head?, c ≠ '.' ∧ c.isDigit = false

theorem readFraction_none {text : List Char} (ends : EndsFraction text) :
    readFraction text = some (0, text) := by
  unfold readFraction
  split
  next rest => exact absurd rfl (ends '.' rfl).1
  · rfl

theorem readFraction_point {digits text : List Char} (filled : digits ≠ [])
    (numeral : ∀ c ∈ digits, c.isDigit = true) (short : digits.length ≤ 9)
    (ends : EndsFraction text) :
    readFraction ('.' :: digits ++ text) =
      some (digitsValue digits * Nat.pow 10 (9 - digits.length), text) := by
  have stop : EndsDigits text := fun c first => (ends c first).2
  have front : (digits ++ text).takeWhile Char.isDigit = digits := takeWhile_digits numeral stop
  have behind : (digits ++ text).dropWhile Char.isDigit = text := dropWhile_digits numeral stop
  simp only [readFraction, List.cons_append, front, behind, List.isEmpty_eq_false_iff.mpr filled,
    Bool.false_eq_true, if_false, List.take_of_length_le short]

theorem readFraction_writePadded {places n : Nat} (places_pos : 0 < places) (short : places ≤ 9)
    (fits : n < Nat.pow 10 places) {text : List Char} (ends : EndsFraction text) :
    readFraction ('.' :: Instant.writePadded places n ++ text) =
      some (n * Nat.pow 10 (9 - places), text) := by
  have length := Instant.length_writePadded places_pos fits
  have filled : Instant.writePadded places n ≠ [] :=
    List.ne_nil_of_length_pos (by rw [length]; exact places_pos)
  have read := readFraction_point filled (fun _ => Instant.isDigit_of_mem_writePadded)
    (by rw [length]; exact short) ends
  rwa [length, Instant.digitsValue_writePadded] at read

/-- The fewest places that are exact are read as the same nanoseconds. -/
theorem readFraction_writeFraction {nanos : Nat} (short : nanos < 1000000000) {text : List Char}
    (ends : EndsFraction text) :
    readFraction (Instant.writeFraction nanos ++ text) = some (nanos, text) := by
  unfold Instant.writeFraction
  split
  next zero => rw [List.nil_append, readFraction_none ends, zero]
  split
  next millis =>
    have fits : nanos / 1000000 < 1000 := by omega
    have exact : nanos / 1000000 * 1000000 = nanos := by omega
    rw [readFraction_writePadded (by decide) (by decide) fits ends]
    exact congrArg (fun n => some (n, text)) exact
  split
  next micros =>
    have fits : nanos / 1000 < 1000000 := by omega
    have exact : nanos / 1000 * 1000 = nanos := by omega
    rw [readFraction_writePadded (by decide) (by decide) fits ends]
    exact congrArg (fun n => some (n, text)) exact
  · rw [readFraction_writePadded (by decide) (by decide) short ends]
    exact congrArg (fun n => some (n, text)) (Nat.mul_one nanos)

/-- A fraction is less than a second, however many places it has. -/
theorem readFraction_lt {text rest : List Char} {nanos : Nat}
    (read : readFraction text = some (nanos, rest)) : nanos < 1000000000 := by
  unfold readFraction at read
  split at read
  · simp only at read
    split at read
    · cases read
    · cases read
      rename_i behind _
      have numeral : ∀ c ∈ (behind.takeWhile Char.isDigit).take 9, c.isDigit = true :=
        fun c member => List.mem_takeWhile_imp (List.mem_of_mem_take member)
      have small := digitsValue_lt numeral
      have short : ((behind.takeWhile Char.isDigit).take 9).length ≤ 9 := List.length_take_le _ _
      calc digitsValue ((behind.takeWhile Char.isDigit).take 9) *
            Nat.pow 10 (9 - ((behind.takeWhile Char.isDigit).take 9).length)
          < Nat.pow 10 ((behind.takeWhile Char.isDigit).take 9).length *
            Nat.pow 10 (9 - ((behind.takeWhile Char.isDigit).take 9).length) :=
            Nat.mul_lt_mul_of_pos_right small (Nat.pow_pos (by decide))
        _ = 1000000000 := by
          rw [Nat.pow_eq, Nat.pow_eq, ← Nat.pow_add, Nat.add_sub_cancel' short]
  · cases read
    decide

end TimeLiteral

end ODataTable
