import ODataTable.Json.Writer
import ODataTable.Proofs.Number.Literal

/-! The text of a number is a decimal literal behind an optional minus, in every layout. -/

set_option autoImplicit false

namespace ODataTable

def IsDecimal (text : List Char) : Prop :=
  ∃ literal : DecimalLiteral, literal.IsWritten text

/-- A decimal literal behind an optional minus. -/
inductive IsSignedDecimal : List Char → Prop
  | unsigned {text : List Char} : IsDecimal text → IsSignedDecimal text
  | negative {text : List Char} : IsDecimal text → IsSignedDecimal ('-' :: text)

theorem isDecimal_numeral {digits : List Char} (numeral : IsNumeral digits) : IsDecimal digits :=
  ⟨_, .numeral numeral⟩

theorem isDecimal_point {whole fraction : List Char} (numeral : IsNumeral whole)
    (digits : IsDigits fraction) : IsDecimal (whole ++ '.' :: fraction) :=
  ⟨⟨whole, fraction, 0⟩, numeral.2, .inl numeral.1, '.' :: fraction, [],
    by rw [List.append_nil], .point digits, .absent⟩

theorem IsDigits.append {first second : List Char} (digits : IsDigits first)
    (others : IsDigits second) : IsDigits (first ++ second) := by
  intro c member
  exact (List.mem_append.mp member).elim (digits c) (others c)

theorem isDigits_zeros (count : Nat) : IsDigits (List.replicate count '0') := by
  intro c member
  rw [List.eq_of_mem_replicate member]
  rfl

theorem isDigits_decimalDigits (n : Nat) : IsDigits (decimalDigits n) :=
  (isNumeral_decimalDigits n).2

namespace DecimalLayout

theorem isDecimal_writePlain (layout : DecimalLayout) (decimal : Decimal) :
    IsDecimal (layout.writePlain decimal) := by
  have digits := isDigits_decimalDigits decimal.significand
  have filled := (isNumeral_decimalDigits decimal.significand).1
  unfold writePlain
  simp only
  split
  · have whole : IsNumeral (decimalDigits decimal.significand ++
        List.replicate decimal.exponent.toNat '0') :=
      ⟨List.append_ne_nil_of_left_ne_nil filled _, digits.append (isDigits_zeros _)⟩
    split
    · exact isDecimal_point whole (isDigits_zeros 1)
    · rw [List.append_nil]
      exact isDecimal_numeral whole
  split
  next places =>
    refine isDecimal_point ⟨List.ne_nil_of_length_pos ?_, ?_⟩ ?_
    · rw [List.length_take]
      omega
    · exact fun c member => digits c (List.mem_of_mem_take member)
    · exact fun c member => digits c (List.mem_of_mem_drop member)
  · have zero : IsNumeral ['0'] := ⟨List.cons_ne_nil _ _, isDigits_zeros 1⟩
    exact isDecimal_point zero ((isDigits_zeros _).append digits)

theorem isDecimal_writeScientific (decimal : Decimal) : IsDecimal (writeScientific decimal) := by
  have exponent : ∃ n, WritesExponent ('e' :: (if decimal.leadingExponent < 0 then '-' else '+') ::
      decimalDigits decimal.leadingExponent.natAbs) n := by
    have numeral := isNumeral_decimalDigits decimal.leadingExponent.natAbs
    split
    · exact ⟨_, .marked (.inl rfl) (.negative numeral)⟩
    · exact ⟨_, .marked (.inl rfl) (.positive numeral)⟩
  obtain ⟨n, exponent⟩ := exponent
  have numeral := isNumeral_decimalDigits decimal.significand
  unfold writeScientific
  simp only
  split
  next none => exact absurd none numeral.1
  next digit one =>
    rw [one] at numeral
    exact ⟨⟨[digit], [], n⟩, numeral.2, .inl numeral.1, [], _, rfl, .absent, exponent⟩
  next digit rest _ several =>
    rw [several] at numeral
    have first : IsDigits [digit] := by
      intro c member
      rw [List.mem_singleton.mp member]
      exact numeral.2 digit List.mem_cons_self
    have others : IsDigits rest := fun c member => numeral.2 c (List.mem_cons_of_mem _ member)
    exact ⟨⟨[digit], rest, n⟩, first, .inl (List.cons_ne_nil _ _), '.' :: rest, _, rfl,
      .point others, exponent⟩

theorem isDecimal_writeDecimal (layout : DecimalLayout) (decimal : Decimal) :
    IsDecimal (layout.writeDecimal decimal) := by
  unfold writeDecimal
  split
  · exact layout.isDecimal_writePlain decimal
  · simp only
    split
    · exact layout.isDecimal_writePlain decimal
    · exact isDecimal_writeScientific decimal

theorem isSignedDecimal_writeFinite (layout : DecimalLayout) (format : BinaryFormat)
    (negative : Bool) (units : Nat) :
    IsSignedDecimal (layout.writeFinite format negative units) := by
  have magnitude : IsDecimal (if units = 0 then '0' :: (if layout.marksWhole then ['.', '0'] else [])
      else layout.writeDecimal (.shortest format layout.tie units)) := by
    have zero : IsNumeral ['0'] := ⟨List.cons_ne_nil _ _, isDigits_zeros 1⟩
    split
    · split
      · exact isDecimal_point zero (isDigits_zeros 1)
      · exact isDecimal_numeral zero
    · exact layout.isDecimal_writeDecimal _
  unfold writeFinite
  split
  · exact .negative magnitude
  · exact .unsigned magnitude

end DecimalLayout

theorem Json.isSignedDecimal_writeInteger (n : Int) : IsSignedDecimal (writeInteger n) := by
  have digits := isDecimal_numeral (isNumeral_decimalDigits n.natAbs)
  unfold writeInteger
  split
  · exact .negative digits
  · exact .unsigned digits

end ODataTable
