import ODataTable.Proofs.Calendar.Forms
import ODataTable.Proofs.Number.Notation

/-! Texts that are no time literals.

A time literal begins with a slash or with a date, and the year of a date has a hyphen right behind
its digits. The text of a number has anything but a hyphen there, and the texts of other values do
not begin with a year at all.
-/

set_option autoImplicit false

namespace ODataTable

namespace TimeLiteral

/-- Neither a slash nor a date stands in front. -/
structure IsUntimed (text : List Char) : Prop where
  noSlash : text.head? ≠ some '/'
  noDate : readDate text = none

theorem IsUntimed.unread {text : List Char} (untimed : IsUntimed text) : parse? text = none := by
  rw [Option.eq_none_iff_forall_ne_some]
  intro instant read
  obtain ⟨⟨form, read⟩, _⟩ := parse?_eq_some.mp read
  have noDate := untimed.noDate
  cases form with
  | legacy =>
    obtain ⟨inner, rfl⟩ := legacy?_enclosed read
    exact untimed.noSlash rfl
  | zoned =>
    obtain ⟨date, separator, clock, time, zone, offset, dateRead, _⟩ := zoned?_eq_some read
    rw [noDate] at dateRead
    cases dateRead
  | dateOnly =>
    obtain ⟨date, dateRead, _⟩ := dateOnly?_eq_some read
    rw [noDate] at dateRead
    cases dateRead
  | zoneless =>
    obtain ⟨date, clock, time, dateRead, _⟩ := zoneless?_eq_some read
    rw [noDate] at dateRead
    cases dateRead

theorem head?_drop_digits (most : Nat) (text : List Char) :
    ∀ c ∈ (text.drop ((text.take most).takeWhile Char.isDigit).length).head?,
      c.isDigit = true ∨ (text.dropWhile Char.isDigit).head? = some c := by
  induction text generalizing most with
  | nil => simp
  | cons d text ih =>
    cases digit : d.isDigit with
    | false =>
      have other : ¬ d.isDigit = true := by simp [digit]
      rw [List.dropWhile_cons_of_neg other]
      cases most with
      | zero => exact fun c first => .inr first
      | succ most =>
        rw [List.take_succ_cons, List.takeWhile_cons_of_neg other]
        exact fun c first => .inr first
    | true =>
      cases most with
      | zero =>
        intro c first
        cases first
        exact .inl digit
      | succ most =>
        rw [List.take_succ_cons, List.takeWhile_cons_of_pos digit, List.dropWhile_cons_of_pos digit]
        exact ih most

theorem readDigits_behind {least most n : Nat} {text behind : List Char}
    (read : readDigits least most text = some (n, behind)) :
    ∀ c ∈ behind.head?, c.isDigit = true ∨ (text.dropWhile Char.isDigit).head? = some c := by
  simp only [readDigits] at read
  split at read
  · cases read
  · cases read
    exact head?_drop_digits most text

theorem readYear_eq_some {text behind : List Char} {year : Int}
    (read : readYear text = some (year, behind)) :
    ∃ most digits n, readDigits 1 most digits = some (n, behind) ∧
      (text.dropWhile isBlank = digits ∨
        ∃ sign, isSign sign = true ∧ text.dropWhile isBlank = sign :: digits) := by
  unfold readYear at read
  split at read
  · cases read
  next c rest blanks =>
    split at read
    next signed =>
      simp only [Option.bind_eq_bind, Option.bind_eq_some_iff] at read
      obtain ⟨⟨n, rest'⟩, digits, found⟩ := read
      cases found
      rw [Bool.or_comm] at signed
      exact ⟨_, _, n, digits, .inr ⟨c, signed, blanks⟩⟩
    · simp only [Option.bind_eq_bind, Option.bind_eq_some_iff] at read
      obtain ⟨⟨n, rest'⟩, digits, found⟩ := read
      cases found
      exact ⟨_, _, n, digits, .inl blanks⟩

/-- Without a hyphen behind its digits a year begins no date. -/
theorem readDate_of_year {text : List Char}
    (noHyphen : ∀ year behind, readYear text = some (year, behind) → behind.head? ≠ some '-') :
    readDate text = none := by
  rw [Option.eq_none_iff_forall_ne_some]
  intro date read
  simp only [readDate, Option.bind_eq_bind, Option.bind_eq_some_iff] at read
  obtain ⟨⟨year, behind⟩, yearRead, rest, hyphen, _⟩ := read
  obtain rfl : behind = '-' :: rest := readChar_eq_some.mp hyphen
  exact noHyphen year _ yearRead rfl

/-- A text begins with no year of a date if no number there, behind a sign or not, has a hyphen
behind it. -/
theorem untimed_of_numbers {c : Char} {rest : List Char} (noSlash : c ≠ '/')
    (noBlank : isBlank c = false)
    (plain : ∀ most n behind, readDigits 1 most (c :: rest) = some (n, behind) →
      behind.head? ≠ some '-')
    (signed : isSign c = true → ∀ most n behind, readDigits 1 most rest = some (n, behind) →
      behind.head? ≠ some '-') : IsUntimed (c :: rest) := by
  refine ⟨fun slash => noSlash (Option.some.inj slash), readDate_of_year fun year behind read => ?_⟩
  have start : (c :: rest).dropWhile isBlank = c :: rest :=
    List.dropWhile_cons_of_neg (by simp [noBlank])
  obtain ⟨most, digits, n, number, same | ⟨sign, isSign, same⟩⟩ := readYear_eq_some read
  · rw [start] at same
    subst same
    exact plain most n behind number
  · rw [start] at same
    cases same
    exact signed isSign most n behind number

theorem isDigit_of_readDigits {c : Char} {rest : List Char} {most : Nat} {number : Nat × List Char}
    (read : readDigits 1 most (c :: rest) = some number) : c.isDigit = true := by
  obtain ⟨d, text, same, digit⟩ := readDigits_begins Nat.one_pos read
  cases same
  exact digit

theorem untimed_of_first {c : Char} (rest : List Char) (noSlash : c ≠ '/')
    (noBlank : isBlank c = false) (noSign : isSign c = false) (noDigit : c.isDigit = false) :
    IsUntimed (c :: rest) := by
  refine untimed_of_numbers noSlash noBlank (fun most n behind read => ?_) (fun sign => ?_)
  · have digit := isDigit_of_readDigits read
    rw [noDigit] at digit
    cases digit
  · rw [noSign] at sign
    cases sign

theorem readDigits_decimal {text behind : List Char} {most n : Nat} (decimal : IsDecimal text)
    (read : readDigits 1 most text = some (n, behind)) : behind.head? ≠ some '-' := by
  obtain ⟨literal, written⟩ := decimal
  intro hyphen
  rcases readDigits_behind read '-' hyphen with digit | ends
  · cases digit
  · exact written.noHyphen ends

theorem untimed_of_decimal {text : List Char} (decimal : IsDecimal text) : IsUntimed text := by
  have ⟨literal, written⟩ := decimal
  obtain ⟨c, rest, rfl, first⟩ := written.begins
  have noSlash : c ≠ '/' := by
    rintro rfl
    rcases first with digit | point
    · cases digit
    · cases point
  have noBlank : isBlank c = false := by
    rcases first with digit | rfl
    · exact isBlank_of_isDigit digit
    · decide
  refine untimed_of_numbers noSlash noBlank (fun most n behind => readDigits_decimal decimal)
    (fun sign => ?_)
  rw [written.noSign c rfl] at sign
  cases sign

theorem untimed_of_signedDecimal {text : List Char} (number : IsSignedDecimal text) :
    IsUntimed text := by
  cases number with
  | unsigned decimal => exact untimed_of_decimal decimal
  | negative decimal =>
    refine untimed_of_numbers (by decide) (by decide) (fun most n behind read => ?_)
      (fun _ most n behind => readDigits_decimal decimal)
    have digit := isDigit_of_readDigits read
    cases digit

end TimeLiteral

namespace Json

open TimeLiteral (IsUntimed untimed_of_first untimed_of_signedDecimal)

theorem untimed_writeNull : IsUntimed writeNull :=
  untimed_of_first _ (by decide) (by decide) (by decide) (by decide)

theorem untimed_writeBool (value : Bool) : IsUntimed (writeBool value) := by
  cases value <;> exact untimed_of_first _ (by decide) (by decide) (by decide) (by decide)

theorem untimed_writeReal {format : BinaryFormat} (layout : DecimalLayout) (value : Binary format) :
    IsUntimed (writeReal layout value) := by
  cases value with
  | finite negative units =>
    exact untimed_of_signedDecimal (layout.isSignedDecimal_writeFinite format negative units)
  | infinite | nan => exact untimed_writeNull

/-- No value but a string can have the text of a time literal. -/
theorem untimed_write {value : Value} (noText : ∀ text, value ≠ .string text) :
    IsUntimed value.write := by
  cases value with
  | null => exact untimed_writeNull
  | bool value => exact untimed_writeBool value
  | integer n => exact untimed_of_signedDecimal (isSignedDecimal_writeInteger n)
  | real value => exact untimed_writeReal .jsonDouble value
  | string text => exact absurd rfl (noText text)
  | array | object =>
    exact untimed_of_first _ (by decide) (by decide) (by decide) (by decide)

end Json

end ODataTable
